import NetmonPlugins.Plugins.Http.Impl
import NetmonPlugins.Rfc.Http

/-!
This module determines when `check_http` finds the expected string: it looks at what the first
receive returns.
-/

namespace NetmonPlugins
namespace HttpPlugin

def sending (chunks : List (Chunk 4095)) : Server := fun _ _ => .stream chunks

/-- The first receive brings all that the check looks for, in front of any zero byte. -/
def Shows (expectString : Bytes) (chunks : List (Chunk 4095)) : Prop :=
  ∃ chunk rest, chunks = chunk :: rest
    ∧ str "HTTP/1" <:+: cstr chunk.data ∧ str "200" <:+: cstr chunk.data
    ∧ expectString <:+: cstr chunk.data

theorem readResponse_iff (expectString : Bytes) (chunks : List (Chunk 4095))
    (hexpect : expectString ≠ [])
    : readResponse expectString (.stream chunks) = true ↔ Shows expectString chunks := by
  unfold Shows
  simp only [← contains_iff_isInfix]
  cases chunks with
  | nil => simp [readResponse]
  | cons chunk rest =>
    simp only [readResponse, List.cons.injEq, and_assoc]
    split
    . next hboth =>
      rw [Bool.and_eq_true] at hboth
      simp [hexpect, hboth]
    . next hboth =>
      rw [Bool.and_eq_true, not_and] at hboth
      simp only [Bool.false_eq_true, false_iff, not_exists, not_and]
      rintro chunk' rest' rfl _ hhttp hok
      exact absurd hok (hboth hhttp)

theorem code_sending (sslEnabled : Bool) (chunks : List (Chunk 4095)) (config : Config)
    (hhost : config.hostname ≠ [])
    : (check sslEnabled (sending chunks) config).code
        =
      if readResponse config.expectString (.stream chunks) then .ok else .critical := by
  have hread (host : Bytes) (port : Int) (ssl : Bool)
      : checkHttp sslEnabled (sending chunks) host port config.uri ssl config.expectString
        = readResponse config.expectString (.stream chunks) := by
    unfold checkHttp
    split
    . rfl
    . rfl
  unfold check
  rw [if_neg hhost]
  simp only [hread]
  split
  . rfl
  . rfl

theorem infix_of_shows {expectString : Bytes} {chunks : List (Chunk 4095)}
    (h : Shows expectString chunks)
    : expectString <:+: streamOf chunks := by
  obtain ⟨chunk, rest, rfl, _, _, hfound⟩ := h
  apply hfound.trans
  unfold streamOf
  rw [List.flatMap_cons]
  exact (List.takeWhile_prefix _).isInfix.trans (List.prefix_append _ _).isInfix

def bytewise (bytes : Bytes) : List (Chunk 4095) :=
  bytes.map fun b =>
    { data := [b]
      ne_nil := List.cons_ne_nil b []
      length_le := Nat.one_le_ofNat }

theorem streamOf_bytewise (bytes : Bytes) : streamOf (bytewise bytes) = bytes := by
  simp [streamOf, bytewise, List.flatMap_map]

theorem not_shows_bytewise (expectString bytes : Bytes)
    : ¬ Shows expectString (bytewise bytes) := by
  rintro ⟨chunk, rest, hcons, hhttp, _⟩
  unfold bytewise at hcons
  rw [List.map_eq_cons_iff] at hcons
  obtain ⟨b, bs, _, rfl, _⟩ := hcons
  have hlength := hhttp.length_le.trans (List.takeWhile_prefix _).length_le
  contradiction

theorem complete_iff (sslEnabled : Bool) (response : Bytes) (config : Config)
    (hhost : config.hostname ≠ []) (hexpect : config.expectString ≠ [])
    (_hstatus : Http.statusCodeOf response = some 200)
    : (∀ chunks, streamOf chunks = response →
          ((config.expectString <:+: response →
              (check sslEnabled (sending chunks) config).code = .ok)
            ↔ (config.expectString <:+: response → Shows config.expectString chunks)))
        ∧ ((∀ chunks, streamOf chunks = response →
              (config.expectString <:+: response →
                (check sslEnabled (sending chunks) config).code = .ok)
              ∧ ∀ chunks', streamOf chunks' = response →
                (check sslEnabled (sending chunks') config).code
                  = (check sslEnabled (sending chunks) config).code)
          ↔ ¬ config.expectString <:+: response) := by
  have hok (chunks : List (Chunk 4095))
      : (check sslEnabled (sending chunks) config).code = .ok
        ↔ Shows config.expectString chunks := by
    rw [code_sending _ _ _ hhost, ← readResponse_iff _ _ hexpect]
    split
    . next h => simp [h]
    . next h => simp [h]
  refine ⟨fun chunks _ => by rw [hok], ?_⟩
  constructor
  . intro h hinfix
    have hbytewise := (h _ (streamOf_bytewise response)).1 hinfix
    rw [hok] at hbytewise
    exact not_shows_bytewise _ _ hbytewise
  . intro h chunks hchunks
    have hread (chunks : List (Chunk 4095)) (hchunks : streamOf chunks = response)
        : ¬ readResponse config.expectString (.stream chunks) = true := by
      rw [readResponse_iff _ _ hexpect]
      intro hshows
      exact h (hchunks ▸ infix_of_shows hshows)
    refine ⟨fun hinfix => absurd hinfix h, ?_⟩
    intro chunks' hchunks'
    rw [code_sending _ _ _ hhost, code_sending _ _ _ hhost, if_neg (hread _ hchunks),
      if_neg (hread _ hchunks')]

def welcomePage : Bytes := str "HTTP/1.1 200 OK\r\n\r\n<h1>Welcome</h1>"

def oneSegment : List (Chunk 4095) :=
  [{ data := welcomePage
     ne_nil := by decide
     length_le := by decide }]

/-- The head in one segment and the page in the next. -/
def twoSegments : List (Chunk 4095) :=
  [{ data := str "HTTP/1.1 200 OK\r\n\r\n"
     ne_nil := by decide
     length_le := by decide },
   { data := str "<h1>Welcome</h1>"
     ne_nil := by decide
     length_le := by decide }]

theorem critical_of_twoSegments
    : Http.statusCodeOf welcomePage = some 200 ∧ str "Welcome" <:+: welcomePage
        ∧ streamOf oneSegment = welcomePage ∧ streamOf twoSegments = welcomePage
        ∧ (check true (sending oneSegment)
          { hostname := str "www", expectString := str "Welcome" }).code = .ok
        ∧ (check true (sending twoSegments)
          { hostname := str "www", expectString := str "Welcome" }).code = .critical := by
  simp only [← contains_iff_isInfix]
  decide

theorem complete_of_absent
    : (check true (sending twoSegments)
          { hostname := str "www", expectString := str "Goodbye" }).code
        =
      (check true (sending (bytewise welcomePage))
          { hostname := str "www", expectString := str "Goodbye" }).code := by
  have h := complete_iff true welcomePage { hostname := str "www", expectString := str "Goodbye" }
    (by decide) (by decide) (by decide)
  have habsent : ¬ str "Goodbye" <:+: welcomePage := by
    rw [← contains_iff_isInfix]
    decide
  exact (h.2.mpr habsent _ (streamOf_bytewise welcomePage)).2 twoSegments (by decide)

end HttpPlugin
end NetmonPlugins
