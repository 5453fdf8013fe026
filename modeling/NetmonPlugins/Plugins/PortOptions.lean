import NetmonPlugins.Plugins.Imap.Impl
import NetmonPlugins.Plugins.Pop.Impl

/-!
This module determines when the order of the options `-S` and `-p` of `check_imap` and `check_pop`
matters: `-S` takes a port that has been asked for as the default one.
-/

namespace NetmonPlugins

open CommandLine

section

variable {σ : Type u}

def IsSsl (option : Bytes) : Prop := option = str "-S" ∨ option = str "--ssl"

def IsPort (option : Bytes) : Prop := option = str "-p" ∨ option = str "--port"

instance (option : Bytes) : Decidable (IsSsl option) := inferInstanceAs (Decidable (_ ∨ _))

instance (option : Bytes) : Decidable (IsPort option) := inferInstanceAs (Decidable (_ ∨ _))

/-- `-S` once and `-p` once, with a value that is converted to `port`. -/
structure SslAndPort (entries : List (Bytes × Option Bytes)) (portFirst : Bool) (port : Int) where
  front : List (Bytes × Option Bytes)
  middle : List (Bytes × Option Bytes)
  back : List (Bytes × Option Bytes)
  ssl : Bytes
  option : Bytes
  value : Bytes
  isSsl : IsSsl ssl
  isPort : IsPort option
  stoi_value : stoi value = .ok port
  others : ∀ entry ∈ front ++ middle ++ back, ¬ IsSsl entry.1 ∧ ¬ IsPort entry.1
  entries_eq : entries
    = if portFirst then
        front ++ (option, some value) :: middle ++ (ssl, none) :: back
      else
        front ++ (ssl, none) :: middle ++ (option, some value) :: back

/-- What the options do to the port, whose default is `plain` and with `-S` is `secure`. -/
structure PortRules (branch : Bytes → Branch σ) (read : σ → Int) (plain secure : Int) : Prop where
  ssl : ∀ option, IsSsl option → ∃ f, branch option = .set f
    ∧ ∀ s, read (f s) = if read s = plain then secure else read s
  port : ∀ option, IsPort option → ∃ store, (∀ s port, read (store port s) = port)
    ∧ branch option = .value fun value => converted (stoi value) store
  other : ∀ option, ¬ IsSsl option → ¬ IsPort option → Keeps read (branch option)

variable {branch : Bytes → Branch σ} {read : σ → Int} {plain secure : Int}
  (rules : PortRules branch read plain secure)
include rules

theorem PortRules.read_others {entries : List (Bytes × Option Bytes)}
    (hothers : ∀ entry ∈ entries, ¬ IsSsl entry.1 ∧ ¬ IsPort entry.1) {s s' : σ}
    (h : entries.foldlM (follow branch) s = .ok s')
    : read s' = read s := by
  apply read_foldlM_of_keeps _ h
  intro entry hentry
  exact rules.other entry.1 (hothers entry hentry).1 (hothers entry hentry).2

theorem PortRules.read_ssl {option : Bytes} (hssl : IsSsl option) {s s' : σ}
    (h : follow branch s (option, none) = .ok s')
    : read s' = if read s = plain then secure else read s := by
  obtain ⟨f, hbranch, hread⟩ := rules.ssl option hssl
  unfold follow at h
  simp only [hbranch, Except.ok.injEq] at h
  rw [← h, hread]

theorem PortRules.read_port {option value : Bytes} (hport : IsPort option) {port : Int}
    (hvalue : stoi value = .ok port) {s s' : σ} (h : follow branch s (option, some value) = .ok s')
    : read s' = port := by
  obtain ⟨store, hread, hbranch⟩ := rules.port option hport
  obtain ⟨port', hport', rfl⟩ := follow_converted hbranch h
  rw [hread, ← Except.ok.inj (hvalue.symm.trans hport')]

theorem PortRules.read_of_portLast {front back : List (Bytes × Option Bytes)}
    (hback : ∀ entry ∈ back, ¬ IsSsl entry.1 ∧ ¬ IsPort entry.1) {option value : Bytes}
    (hport : IsPort option) {port : Int} (hvalue : stoi value = .ok port) {s s' : σ}
    (h : (front ++ (option, some value) :: back).foldlM (follow branch) s = .ok s')
    : read s' = port := by
  rw [List.foldlM_append] at h
  obtain ⟨before, -, h⟩ := eq_ok_of_bind h
  rw [List.foldlM_cons] at h
  obtain ⟨after, hstep, hrest⟩ := eq_ok_of_bind h
  rw [rules.read_others hback hrest, rules.read_port hport hvalue hstep]

theorem PortRules.read_of_portFirst {front middle back : List (Bytes × Option Bytes)}
    (hmiddle : ∀ entry ∈ middle, ¬ IsSsl entry.1 ∧ ¬ IsPort entry.1)
    (hback : ∀ entry ∈ back, ¬ IsSsl entry.1 ∧ ¬ IsPort entry.1) {option value ssl : Bytes}
    (hport : IsPort option) {port : Int} (hvalue : stoi value = .ok port) (hssl : IsSsl ssl)
    {s s' : σ}
    (h : (front ++ (option, some value) :: middle ++ (ssl, none) :: back).foldlM (follow branch) s
      = .ok s')
    : read s' = if port = plain then secure else port := by
  rw [List.foldlM_append] at h
  obtain ⟨before, hbefore, h⟩ := eq_ok_of_bind h
  rw [List.foldlM_cons] at h
  obtain ⟨after, hstep, hrest⟩ := eq_ok_of_bind h
  rw [rules.read_others hback hrest, rules.read_ssl hssl hstep,
    rules.read_of_portLast hmiddle hport hvalue hbefore]

theorem PortRules.read_eq_iff (hne : secure ≠ plain) {args : List Bytes} {portFirst : Bool}
    {port : Int} (options : SslAndPort (entries branch args) portFirst port) {s s' : σ}
    (h : scan branch s args = .ok s')
    : read s' = port ↔ ¬ (portFirst = true ∧ port = plain) := by
  have hmiddle : ∀ entry ∈ options.middle, ¬ IsSsl entry.1 ∧ ¬ IsPort entry.1 := by
    intro entry hentry
    exact options.others entry (by simp [hentry])
  have hback : ∀ entry ∈ options.back, ¬ IsSsl entry.1 ∧ ¬ IsPort entry.1 := by
    intro entry hentry
    exact options.others entry (by simp [hentry])
  rw [scan_eq_foldlM, options.entries_eq] at h
  cases portFirst with
  | false =>
    have hread := rules.read_of_portLast hback options.isPort options.stoi_value h
    simp [hread]
  | true =>
    have hread := rules.read_of_portFirst hmiddle hback options.isPort options.stoi_value
      options.isSsl h
    by_cases hplain : port = plain
    . simp [hread, hplain, hne]
    . simp [hread, hplain]

end

/-- The options of both plugins, over what each of them stores. -/
def mailBranch {σ : Type u} (hostname username password : Bytes → σ → σ) (port : Int → σ → σ)
    (ssl : σ → σ) (arg : Bytes)
    : Branch σ :=
  if arg = str "-h" ∨ arg = str "--help" then
    .help
  else if arg = str "-H" ∨ arg = str "--hostname" then
    .value fun value => .ok (hostname value)
  else if arg = str "-p" ∨ arg = str "--port" then
    .value fun value => converted (stoi value) port
  else if arg = str "-t" ∨ arg = str "--timeout" then
    .value fun value => converted (stoi value) fun _ => id
  else if arg = str "-u" ∨ arg = str "--username" then
    .value fun value => .ok (username value)
  else if arg = str "-P" ∨ arg = str "--password" then
    .value fun value => .ok (password value)
  else if arg = str "-S" ∨ arg = str "--ssl" then
    .set ssl
  else
    .set id

section

variable {σ : Type u} {hostname username password : Bytes → σ → σ} {port : Int → σ → σ}
  {ssl : σ → σ} {read : σ → Int} {plain secure : Int}

theorem keeps_mailBranch (hhostname : ∀ value s, read (hostname value s) = read s)
    (husername : ∀ value s, read (username value s) = read s)
    (hpassword : ∀ value s, read (password value s) = read s) {option : Bytes}
    (hssl : ¬ IsSsl option) (hport : ¬ IsPort option)
    : Keeps read (mailBranch hostname username password port ssl option) := by
  unfold IsSsl at hssl
  unfold IsPort at hport
  unfold mailBranch
  simp only [if_neg hssl, if_neg hport]
  split
  . trivial
  . split
    . rintro value _ ⟨⟩ s
      apply hhostname
    . split
      . exact keeps_converted fun _ _ => rfl
      . split
        . rintro value _ ⟨⟩ s
          apply husername
        . split
          . rintro value _ ⟨⟩ s
            apply hpassword
          . exact fun _ => rfl

theorem portRules_mailBranch (hhostname : ∀ value s, read (hostname value s) = read s)
    (husername : ∀ value s, read (username value s) = read s)
    (hpassword : ∀ value s, read (password value s) = read s)
    (hport : ∀ s value, read (port value s) = value)
    (hssl : ∀ s, read (ssl s) = if read s = plain then secure else read s)
    : PortRules (mailBranch hostname username password port ssl) read plain secure where
  ssl option h := by
    cases h with
    | inl h => exact ⟨ssl, by rw [h]; rfl, hssl⟩
    | inr h => exact ⟨ssl, by rw [h]; rfl, hssl⟩
  port option h := by
    cases h with
    | inl h => exact ⟨port, hport, by rw [h]; rfl⟩
    | inr h => exact ⟨port, hport, by rw [h]; rfl⟩
  other _ := keeps_mailBranch hhostname husername hpassword

end

theorem ImapPlugin.portRules : PortRules ImapPlugin.branch (·.port) 143 993 :=
  portRules_mailBranch (fun _ _ => rfl) (fun _ _ => rfl) (fun _ _ => rfl) (fun _ _ => rfl)
    fun _ => rfl

theorem PopPlugin.portRules : PortRules PopPlugin.branch (·.port) 110 995 :=
  portRules_mailBranch (fun _ _ => rfl) (fun _ _ => rfl) (fun _ _ => rfl) (fun _ _ => rfl)
    fun _ => rfl

/--
The port is the one asked for, unless that is the default one and `-p` stands in front of `-S`.
-/
theorem port_parseArguments_iff (args : List Bytes) (portFirst : Bool) (port : Int)
    : (∀ config, SslAndPort (entries ImapPlugin.branch args) portFirst port
          → ImapPlugin.parseArguments args = .ok config
          → (config.port = port ↔ ¬ (portFirst = true ∧ port = 143)))
        ∧
      ∀ config, SslAndPort (entries PopPlugin.branch args) portFirst port
          → PopPlugin.parseArguments args = .ok config
          → (config.port = port ↔ ¬ (portFirst = true ∧ port = 110)) := by
  constructor
  . intro config options h
    exact ImapPlugin.portRules.read_eq_iff (by decide) options h
  . intro config options h
    exact PopPlugin.portRules.read_eq_iff (by decide) options h

def sslFirst (port : Int) (value : Bytes) (h : stoi value = .ok port)
    : SslAndPort [(str "-H", some (str "mail")), (str "-S", none), (str "-p", some value)] false
        port where
  front := [(str "-H", some (str "mail"))]
  middle := []
  back := []
  ssl := str "-S"
  option := str "-p"
  value := value
  isSsl := .inl rfl
  isPort := .inl rfl
  stoi_value := h
  others := by
    intro entry hentry
    simp only [List.append_nil, List.mem_singleton] at hentry
    subst hentry
    decide
  entries_eq := rfl

theorem port_parseArguments_of_sslFirst
    : (∃ config, ImapPlugin.parseArguments [str "-H", str "mail", str "-S", str "-p", str "143"]
          = .ok config ∧ config.port = 143)
        ∧
      ∃ config, PopPlugin.parseArguments [str "-H", str "mail", str "-S", str "-p", str "110"]
        = .ok config ∧ config.port = 110 := by
  have himap := (port_parseArguments_iff [str "-H", str "mail", str "-S", str "-p", str "143"]
    false 143).1 _ (sslFirst 143 (str "143") rfl) rfl
  have hpop := (port_parseArguments_iff [str "-H", str "mail", str "-S", str "-p", str "110"]
    false 110).2 _ (sslFirst 110 (str "110") rfl) rfl
  exact ⟨⟨_, rfl, himap.mpr (by decide)⟩, _, rfl, hpop.mpr (by decide)⟩

/-- The same options the other way round. -/
theorem port_parseArguments_of_portFirst
    : (∃ config, ImapPlugin.parseArguments [str "-H", str "mail", str "-p", str "143", str "-S"]
          = .ok config ∧ config.port = 993)
        ∧
      ∃ config, PopPlugin.parseArguments [str "-H", str "mail", str "-p", str "110", str "-S"]
        = .ok config ∧ config.port = 995 :=
  ⟨⟨_, rfl, rfl⟩, _, rfl, rfl⟩

end NetmonPlugins
