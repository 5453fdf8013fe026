import Mathlib.Data.List.Perm.Basic
import NetmonPlugins.Plugins.Tcp.Impl

/-!
This module determines when the code of `check_tcp` does not depend on the order in which the
resolver returns the addresses of a host.
-/

namespace NetmonPlugins
namespace TcpPlugin

def Address.Accepts (address : Address) : Prop :=
  address.socket = true
    ∧ (address.connect = .connected
      ∨ address.connect = .inProgress ∧ address.writable = true ∧ address.soError = 0)

/-- The attempt fails at once, and `select` and `SO_ERROR` do not tell. -/
def Address.IsMisreported (address : Address) : Prop :=
  address.socket = true ∧ address.connect = .failed ∧ address.writable = true
    ∧ address.soError = 0

instance (address : Address) : Decidable address.Accepts := inferInstanceAs (Decidable (_ ∧ _))

instance (address : Address) : Decidable address.IsMisreported :=
  inferInstanceAs (Decidable (_ ∧ _))

theorem Address.connectTcp_iff (address : Address)
    : address.connectTcp = true ↔ address.Accepts ∨ address.IsMisreported := by
  unfold connectTcp Accepts IsMisreported
  cases address.socket with
  | false => simp
  | true => cases address.connect <;> simp

def resolving (addresses : List Address) : Network := connectTcp fun _ _ => addresses

theorem code_resolving (config : Config) (address : Address) (addresses : List Address)
    (hhost : config.hostname ≠ []) (hport : 0 ≤ config.port)
    : (check (resolving (address :: addresses)) config).code
        =
      if address.connectTcp then .ok else .critical := by
  have htarget : ¬ (config.hostname = [] ∨ config.port < 0) := by
    rw [not_or]
    exact ⟨hhost, by omega⟩
  unfold check
  rw [if_neg htarget]
  rfl

def OrderIndependent (config : Config) (addresses : List Address) : Prop :=
  ∀ order order', order.Perm addresses → order'.Perm addresses →
    (check (resolving order) config).code = (check (resolving order') config).code
      ∧ ((check (resolving order) config).code = .ok ↔ ∃ address ∈ addresses, address.Accepts)

theorem connectTcp_eq_accepts_iff (addresses : List Address)
    : (∀ address ∈ addresses,
          (address.connectTcp = true ↔ ∃ address ∈ addresses, address.Accepts))
        ↔
      if ∃ address ∈ addresses, address.Accepts then
        ∀ address ∈ addresses, address.Accepts ∨ address.IsMisreported
      else
        ∀ address ∈ addresses, ¬ address.IsMisreported := by
  simp only [Address.connectTcp_iff]
  split
  . next hsome => simp [hsome]
  . next hnone =>
    simp only [hnone, iff_false, not_or]
    simp only [not_exists, not_and] at hnone
    constructor
    . intro h address hmem
      exact (h address hmem).2
    . intro h address hmem
      exact ⟨hnone address hmem, h address hmem⟩

theorem orderIndependent_iff (config : Config) (addresses : List Address)
    (hhost : config.hostname ≠ []) (hport : 0 ≤ config.port) (hne : addresses ≠ [])
    : OrderIndependent config addresses
        ↔
      if ∃ address ∈ addresses, address.Accepts then
        ∀ address ∈ addresses, address.Accepts ∨ address.IsMisreported
      else
        ∀ address ∈ addresses, ¬ address.IsMisreported := by
  rw [← connectTcp_eq_accepts_iff]
  constructor
  . intro h address hmem
    -- Every address is the first one of some order.
    have horder := List.perm_cons_erase hmem
    have hcode := (h _ _ horder.symm horder.symm).2
    rw [code_resolving _ _ _ hhost hport] at hcode
    rw [← hcode]
    cases address.connectTcp <;> simp
  . intro h order order' horder horder'
    have hcode {order : List Address} (horder : order.Perm addresses)
        : (check (resolving order) config).code
          = if ∃ address ∈ addresses, address.Accepts then .ok else .critical := by
      cases order with
      | nil => exact absurd horder.nil_eq.symm hne
      | cons address rest =>
        rw [code_resolving _ _ _ hhost hport]
        have hmem := horder.mem_iff.mp (List.mem_cons_self (a := address) (l := rest))
        simp only [h address hmem]
    rw [hcode horder, hcode horder']
    refine ⟨rfl, ?_⟩
    split
    . next hsome => simp [hsome]
    . next hnone => simp [hnone]

def refusing : Address :=
  { socket := true, connect := .inProgress, writable := true, soError := 111 }

def accepting : Address :=
  { socket := true, connect := .inProgress, writable := true, soError := 0 }

theorem orderIndependent_of_accepting
    : OrderIndependent { hostname := str "www", port := 80 } [accepting, accepting] := by
  apply (orderIndependent_iff { hostname := str "www", port := 80 } [accepting, accepting]
    (by decide) (by decide) (by decide)).mpr
  decide

/-- The address of the first family refuses, the one of the second accepts. -/
theorem code_depends_on_resolver
    : (check (resolving [refusing, accepting]) { hostname := str "www", port := 80 }).code
          = .critical
        ∧ (check (resolving [accepting, refusing]) { hostname := str "www", port := 80 }).code
          = .ok
        ∧ [refusing, accepting].Perm [accepting, refusing]
        ∧ ¬ OrderIndependent { hostname := str "www", port := 80 } [accepting, refusing] := by
  have hperm : [refusing, accepting].Perm [accepting, refusing] := List.Perm.swap _ _ _
  refine ⟨by decide, by decide, hperm, ?_⟩
  intro h
  have hcode := (h _ _ hperm (List.Perm.refl _)).1
  contradiction

end TcpPlugin
end NetmonPlugins
