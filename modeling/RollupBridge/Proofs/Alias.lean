import Mathlib.Data.Int.GCD
import Mathlib.Data.Int.ModEq
import Mathlib.Data.Nat.Prime.Basic
import RollupBridge.Address
import RollupBridge.Proofs.Bytes.Number

namespace RollupBridge.Address

/-- A step from one address to the next: to the alias of a sender, or back from that of a contract. -/
inductive AliasStep
  | apply (sender : SenderKind)
  | undo
deriving DecidableEq

theorem toNat_aliasOffset : aliasOffset.toNat = 0x1111000000000000000000000000000000001111 := by
  decide

theorem toNat_lt (address : Address) : address.toNat < 2 ^ 160 := by
  have hlt := Bytes.toNat_lt address.bytes
  rwa [address.length_eq] at hlt

/-- An address as a number of 256 bits. -/
def widen (address : Address) : Uint 256 := BitVec.ofNat 256 address.toNat

/-- The low twenty bytes of a number of 256 bits. -/
def cut (value : Uint 256) : Address := Word.lowAddress value.toWord

theorem toNat_widen (address : Address) : address.widen.toNat = address.toNat := by
  have hlt := toNat_lt address
  rw [widen, BitVec.toNat_ofNat]
  omega

theorem toNat_cut (value : Uint 256) : (cut value).toNat = value.toNat % 2 ^ 160 := by
  rw [cut, Word.toNat_lowAddress, Uint.toNat_toWord value (Nat.le_refl 256)]

namespace AliasStep

variable {step : AliasStep} {steps steps' : List AliasStep} {address : Address}

def next : AliasStep → Address → Address
  | apply sender, address => address.applyAlias sender
  | undo, address => address.undoAlias

/-- The step on 256-bit words that wrap around, of which the low twenty bytes are kept. -/
def nextWide : AliasStep → Address → Address
  | apply .contract, address => cut (address.widen + aliasOffset.widen)
  | apply .externallyOwned, address => address
  | undo, address => cut (address.widen - aliasOffset.widen)

/-- How often a step adds the offset. -/
def shift : AliasStep → Int
  | apply .contract => 1
  | apply .externallyOwned => 0
  | undo => -1

/-- The address that steps in a row lead to. -/
def run (steps : List AliasStep) (address : Address) : Address :=
  steps.foldl (fun address step => step.next address) address

/-- How often the offset is added by steps in a row, less how often it is taken off. -/
def net (steps : List AliasStep) : Int := steps.count (apply .contract) - steps.count undo

theorem net_cons (step : AliasStep) (steps : List AliasStep) :
    net (step :: steps) = step.shift + net steps := by
  unfold net
  rw [List.count_cons, List.count_cons]
  cases step with
  | apply sender =>
    cases sender
    · simp [shift]
      omega
    · simp [shift]
  | undo =>
    simp [shift]
    omega

theorem net_replicate (count : Nat) : net (List.replicate count (apply .contract)) = count := by
  simp [net, List.count_replicate]

/-- A step adds or takes off the offset modulo `2 ^ 160`. -/
theorem toNat_next (step : AliasStep) (address : Address) :
    ((step.next address).toNat : Int) =
      (address.toNat + step.shift * aliasOffset.toNat) % 2 ^ 160 := by
  have hlt := toNat_lt address
  have hofNat (value : Nat) : (FixedBytes.ofNat value : Address).toNat = value % 2 ^ 160 :=
    Bytes.toNat_ofNat 20 value
  rw [toNat_aliasOffset]
  cases step with
  | apply sender =>
    cases sender with
    | contract =>
      rw [next, applyAlias, hofNat, toNat_aliasOffset, shift]
      omega
    | externallyOwned =>
      rw [next, applyAlias, shift]
      omega
  | undo =>
    rw [next, undoAlias, hofNat, toNat_aliasOffset, shift, Nat.pow_eq]
    omega

/-- A wrap at `2 ^ 256` does not show in the low twenty bytes. -/
theorem nextWide_eq (step : AliasStep) (address : Address) : step.nextWide address = step.next address := by
  have hlt := toNat_lt address
  rw [← FixedBytes.toNat_inj, ← Int.ofNat_inj, toNat_next, toNat_aliasOffset]
  cases step with
  | apply sender =>
    cases sender with
    | contract =>
      rw [nextWide, toNat_cut, BitVec.toNat_add, toNat_widen, toNat_widen, toNat_aliasOffset, shift]
      omega
    | externallyOwned =>
      rw [nextWide, shift]
      omega
  | undo =>
    rw [nextWide, toNat_cut, BitVec.toNat_sub, toNat_widen, toNat_widen, toNat_aliasOffset, shift]
    omega

/-- A run adds the offset as often as it is taken more than undone. -/
theorem toNat_run (steps : List AliasStep) (address : Address) :
    ((run steps address).toNat : Int) =
      (address.toNat + net steps * aliasOffset.toNat) % 2 ^ 160 := by
  induction steps generalizing address with
  | nil =>
    have hlt := toNat_lt address
    simp only [run, net, List.foldl_nil, List.count_nil]
    omega
  | cons step steps ih =>
    calc ((run (step :: steps) address).toNat : Int)
        = ((step.next address).toNat + net steps * aliasOffset.toNat) % 2 ^ 160 := ih _
      _ = (address.toNat + step.shift * aliasOffset.toNat + net steps * aliasOffset.toNat) %
            2 ^ 160 := by rw [toNat_next, Int.emod_add_emod]
      _ = (address.toNat + net (step :: steps) * aliasOffset.toNat) % 2 ^ 160 := by
        rw [net_cons, Int.add_mul, Int.add_assoc]

/-- The same run on words that wrap around. -/
theorem run_eq_foldl_nextWide (steps : List AliasStep) (address : Address) :
    run steps address = steps.foldl (fun address step => step.nextWide address) address := by
  simp only [run, nextWide_eq]

/-- The offset is odd, so multiples of it are as far apart modulo `2 ^ 160` as their factors. -/
theorem dvd_mul_aliasOffset_iff {factor : Int} :
    2 ^ 160 ∣ factor * aliasOffset.toNat ↔ 2 ^ 160 ∣ factor := by
  have hodd : Nat.Coprime 2 aliasOffset.toNat := by
    rw [toNat_aliasOffset]
    decide
  constructor
  · intro hproduct
    exact Int.dvd_of_dvd_mul_left_of_gcd_one hproduct (Nat.Coprime.pow_left 160 hodd)
  · intro hfactor
    exact hfactor.mul_right _

/-- Two runs meet exactly if they add the offset equally often, modulo `2 ^ 160`. -/
theorem run_eq_run_iff : run steps address = run steps' address ↔ 2 ^ 160 ∣ net steps' - net steps := by
  have hdiff : ((address.toNat : Int) + net steps' * aliasOffset.toNat) -
      (address.toNat + net steps * aliasOffset.toNat) =
        (net steps' - net steps) * aliasOffset.toNat := by
    rw [Int.sub_mul]
    omega
  rw [← FixedBytes.toNat_inj, ← Int.ofNat_inj, toNat_run, toNat_run, ← dvd_mul_aliasOffset_iff, ← hdiff]
  exact Int.modEq_iff_dvd

/-- Runs that add the offset equally often lead to one address. -/
theorem run_congr (hnet : net steps = net steps') : run steps address = run steps' address := by
  rw [run_eq_run_iff, hnet, Int.sub_self]
  exact dvd_zero _

theorem undoAlias_applyAlias (address : Address) : (address.applyAlias .contract).undoAlias = address := by
  have hreturn : run [apply .contract, undo] address = run [] address := run_congr (by decide)
  exact hreturn

theorem applyAlias_undoAlias (address : Address) : address.undoAlias.applyAlias .contract = address := by
  have hreturn : run [undo, apply .contract] address = run [] address := run_congr (by decide)
  exact hreturn

/-- A sender's alias is that of no other sender, and every address is an alias. -/
theorem bijective_applyAlias (sender : SenderKind) :
    Function.Bijective fun address : Address => address.applyAlias sender := by
  rw [Function.bijective_iff_has_inverse]
  cases sender with
  | contract => exact ⟨undoAlias, undoAlias_applyAlias, applyAlias_undoAlias⟩
  | externallyOwned => exact ⟨id, fun _ => rfl, fun _ => rfl⟩

/-- Aliases alone lead back to where they started exactly if there is a multiple of `2 ^ 160` of them. -/
theorem run_replicate_eq_iff (count : Nat) :
    run (List.replicate count (apply .contract)) address = address ↔ 2 ^ 160 ∣ count := by
  have hreturn : run (List.replicate count (apply .contract)) address = address ↔
      run [] address = run (List.replicate count (apply .contract)) address := eq_comm
  have hnet : net [] = 0 := rfl
  rw [hreturn, run_eq_run_iff, net_replicate, hnet, Int.sub_zero]
  exact Int.natCast_dvd_natCast (m := 2 ^ 160)

/-- Steps in a row add the offset, modulo `2 ^ 160`, as often as a contract's alias is taken less how often
one is undone, also where the words they are computed on wrap around. So their order does not matter, an
alias and the way back cancel out in both orders, no two addresses of a kind of sender have one alias and
every address is an alias, and aliases alone return to an address only in multiples of `2 ^ 160`. -/
theorem run_adds_offset (address : Address) (steps : List AliasStep) :
    ((run steps address).toNat : Int) =
        (address.toNat + (steps.count (apply .contract) - steps.count undo) * aliasOffset.toNat) %
          2 ^ 160 ∧
      run steps address = steps.foldl (fun address step => step.nextWide address) address ∧
      (∀ turned : List AliasStep, turned.Perm steps → run turned address = run steps address) ∧
      (address.applyAlias .contract).undoAlias = address ∧
      address.undoAlias.applyAlias .contract = address ∧
      (∀ sender, Function.Bijective fun address : Address => address.applyAlias sender) ∧
      ∀ count, run (List.replicate count (apply .contract)) address = address ↔ 2 ^ 160 ∣ count := by
  refine ⟨toNat_run steps address, run_eq_foldl_nextWide steps address, fun turned hturned => ?_,
    undoAlias_applyAlias address, applyAlias_undoAlias address, bijective_applyAlias, run_replicate_eq_iff⟩
  apply run_congr
  unfold net
  rw [hturned.count_eq, hturned.count_eq]

/-- Undone first, the sum of the zero address wraps around below zero and comes back. -/
theorem run_adds_offset_of_turned :
    let steps := [apply .contract, apply .contract, apply .externallyOwned, undo]
    let turned := [undo, apply .contract, apply .externallyOwned, apply .contract]
    turned.Perm steps ∧ run turned FixedBytes.zero = run steps FixedBytes.zero ∧
      run turned FixedBytes.zero = aliasOffset := by
  have hturned : [undo, apply .contract, apply .externallyOwned, apply .contract].Perm
      [apply .contract, apply .contract, apply .externallyOwned, undo] := by decide
  exact ⟨hturned, (run_adds_offset FixedBytes.zero _).2.2.1 _ hturned, by decide⟩

end AliasStep

end RollupBridge.Address
