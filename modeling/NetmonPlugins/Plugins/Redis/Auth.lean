import NetmonPlugins.Plugins.Redis.Impl
import NetmonPlugins.Rfc.Resp

/-!
This module contains the requests of `check_redis`: a command is one text that is split at white
space before it is encoded.
-/

namespace NetmonPlugins
namespace RedisPlugin

theorem splitWords_of_notSpace (part s : Bytes) (h : ∀ b ∈ s, isSpace b = false)
    (hne : part ++ s ≠ [])
    : splitWords part s = [part ++ s] := by
  induction s generalizing part with
  | nil =>
    rw [List.append_nil] at hne
    rw [splitWords, if_neg hne, List.append_nil]
  | cons b s ih =>
    rw [List.forall_mem_cons] at h
    rw [splitWords, if_neg (by simp [h.1]), ih _ h.2]
    . rw [List.append_assoc, List.singleton_append]
    . simp

theorem notSpace_of_mem_splitWords (part s : Bytes) (hpart : ∀ b ∈ part, isSpace b = false)
    : ∀ word ∈ splitWords part s, ∀ b ∈ word, isSpace b = false := by
  induction s generalizing part with
  | nil =>
    rw [splitWords]
    split
    . intro word hword
      contradiction
    . intro word hword
      rw [List.mem_singleton.mp hword]
      exact hpart
  | cons b s ih =>
    rw [splitWords]
    split
    . intro word hword
      cases List.mem_append.mp hword with
      | inl hflushed =>
        split at hflushed
        . contradiction
        . rw [List.mem_singleton.mp hflushed]
          exact hpart
      | inr hrest => exact ih [] (fun b hb => by contradiction) word hrest
    . next hb =>
      apply ih
      intro b' hb'
      cases List.mem_append.mp hb' with
      | inl hb' => exact hpart b' hb'
      | inr hb' =>
        rw [List.mem_singleton.mp hb']
        simpa using hb

theorem commandBytes_eq (command : Bytes)
    : commandBytes command = Resp.array (splitWords [] command) := rfl

theorem splitWords_auth (password : Bytes)
    : splitWords [] (str "AUTH " ++ password) = str "AUTH" :: splitWords [] password := rfl

theorem splitWords_eq_singleton_iff (word : Bytes) (hne : word ≠ [])
    : splitWords [] word = [word] ↔ ∀ b ∈ word, isSpace b = false := by
  constructor
  . intro h
    apply notSpace_of_mem_splitWords [] word (fun b hb => by contradiction)
    rw [h]
    exact List.mem_singleton_self word
  . intro h
    apply splitWords_of_notSpace [] word h hne

theorem auth_roundTrip_iff (password : Bytes) (hne : password ≠ [])
    : Resp.decodeArray (commandBytes (str "AUTH " ++ password)) = some [str "AUTH", password]
        ↔
      ∀ b ∈ password, isSpace b = false := by
  rw [commandBytes_eq, Resp.decodeArray_array, Option.some.injEq, splitWords_auth,
    List.cons.injEq, splitWords_eq_singleton_iff password hne]
  simp

theorem auth_roundTrip_secret
    : Resp.decodeArray (commandBytes (str "AUTH secret")) = some [str "AUTH", str "secret"] := by
  apply (auth_roundTrip_iff (str "secret") (by decide)).mpr
  have hall : (str "secret").all (!isSpace ·) = true := by decide
  intro b hb
  simpa using List.all_eq_true.mp hall b hb

/-- The blank makes two arguments of the password. -/
theorem auth_of_blank
    : Resp.decodeArray (commandBytes (str "AUTH my secret"))
          = some [str "AUTH", str "my", str "secret"]
        ∧ Resp.decodeArray (commandBytes (str "AUTH my secret"))
          ≠ some [str "AUTH", str "my secret"] := by
  decide +kernel

end RedisPlugin
end NetmonPlugins
