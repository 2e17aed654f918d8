import RollupBridge.Proofs.Json.Grammar
import RollupBridge.Json.Miss

namespace RollupBridge.Json

/-- What is left behind characters that have no meaning in strings, and at most one other. -/
def Skips (text rest : List Char) : Prop :=
  ∃ safe last, text = safe ++ last ++ rest ∧ IsSafe safe ∧ last.length ≤ 1

variable {text rest word safe : List Char} {c : Char}

theorem Skips.refl (text : List Char) : Skips text text := ⟨[], [], rfl, nofun, by simp⟩

theorem Skips.append (hsafe : IsSafe safe) (hskips : Skips text rest) :
    Skips (safe ++ text) rest := by
  obtain ⟨more, last, rfl, hmore, hlast⟩ := hskips
  exact ⟨safe ++ more, last, by simp, List.forall_mem_append.mpr ⟨hsafe, hmore⟩, hlast⟩

theorem Skips.cons (hsafe : c ≠ '"' ∧ c ≠ '\\') (hskips : Skips text rest) : Skips (c :: text) rest :=
  .append (List.forall_mem_singleton.mpr hsafe) hskips

theorem safe_of_isDigit (hc : Decimal.isDigit c = true) : c ≠ '"' ∧ c ≠ '\\' := by
  constructor <;> rintro rfl <;> cases hc

theorem skips_digits (text : List Char) : Skips text (text.dropWhile Decimal.isDigit) := by
  have hsafe : IsSafe (text.takeWhile Decimal.isDigit) :=
    fun c hc => safe_of_isDigit (List.mem_takeWhile_imp hc)
  have hskips := Skips.append hsafe (.refl (text.dropWhile Decimal.isDigit))
  rwa [List.takeWhile_append_dropWhile] at hskips

theorem skips_of_behindOne (hbehind : behindOne c text = some rest) : Skips (c :: text) rest := by
  rw [behindOne] at hbehind
  split at hbehind
  · cases hbehind
    exact ⟨[], [c], rfl, nofun, by simp⟩
  · cases hbehind

theorem skips_of_behindWord (hword : IsSafe word)
    (hbehind : behindWord word text = some rest) : Skips text rest := by
  induction word generalizing text with
  | nil =>
    cases hbehind
    exact .refl _
  | cons letter word ih =>
    cases text with
    | nil => cases hbehind
    | cons c text =>
      rw [behindWord] at hbehind
      split at hbehind
      · subst c
        exact .cons (hword letter List.mem_cons_self)
          (ih (fun other hother => hword other (List.mem_cons_of_mem _ hother)) hbehind)
      · exact skips_of_behindOne hbehind

theorem skips_behindExponentDigits (isTooLarge : Bool) (seen : Nat) (text : List Char) :
    Skips text (behindExponentDigits isTooLarge seen text) := by
  have hdigit {c : Char} {d : Nat} (hvalue : Decimal.value? c = some d) : c ≠ '"' ∧ c ≠ '\\' :=
    safe_of_isDigit (by rw [Decimal.isDigit, hvalue]; rfl)
  fun_induction behindExponentDigits isTooLarge seen text with
  | case1 => exact .refl _
  | case2 => exact .refl _
  | case3 seen c text d hvalue _ ih => exact .cons (hdigit hvalue) ih
  | case4 seen c text d hvalue => exact .cons (hdigit hvalue) (.refl _)
  | case5 seen c text d hvalue => exact .cons (hdigit hvalue) (skips_digits text)

theorem skips_of_behindExponent {isZero : Bool} (hbehind : behindExponent isZero text = some rest) :
    Skips text rest := by
  unfold behindExponent at hbehind
  split at hbehind
  rename_i isNegative unsigned hsplit
  have hunsigned : Skips unsigned rest := by
    split at hbehind
    · cases hbehind
    · split at hbehind
      · cases hbehind
        exact skips_behindExponentDigits _ _ _
      · exact skips_of_behindOne hbehind
  split at hsplit
  · cases hsplit
    exact .cons (by decide) hunsigned
  · cases hsplit
    exact .cons (by decide) hunsigned
  · cases hsplit
    exact hunsigned

theorem skips_of_behindFraction {digits : List Char} (hbehind : behindFraction digits text = some rest) :
    Skips text rest := by
  have hmark {e : Char} (he : e = 'e' ∨ e = 'E') : e ≠ '"' ∧ e ≠ '\\' := by
    rcases he with rfl | rfl <;> decide
  unfold behindFraction at hbehind
  split at hbehind
  · rename_i text
    have hdigits {rest : List Char} (hrest : Skips (text.dropWhile Decimal.isDigit) rest) :
        Skips ('.' :: text) rest := by
      have hsafe : IsSafe (text.takeWhile Decimal.isDigit) :=
        fun c hc => safe_of_isDigit (List.mem_takeWhile_imp hc)
      have hskips := Skips.append hsafe hrest
      rw [List.takeWhile_append_dropWhile] at hskips
      exact .cons (by decide) hskips
    dsimp only at hbehind
    split at hbehind
    · cases hbehind
      exact hdigits (.refl _)
    · rename_i htext _
      refine hdigits ?_
      rw [htext]
      split at hbehind
      · rename_i he
        exact .cons (hmark he) (skips_of_behindExponent hbehind)
      · cases hbehind
        exact .refl _
    · cases hbehind
  · split at hbehind
    · rename_i he
      exact .cons (hmark he) (skips_of_behindExponent hbehind)
    · cases hbehind
      exact .refl _
  · cases hbehind

theorem skips_of_behindNumber {isNegative : Bool} (hbehind : behindNumber isNegative text = some rest) :
    Skips text rest := by
  unfold behindNumber at hbehind
  split at hbehind
  · cases hbehind
  · split at hbehind
    · cases hbehind
      exact .cons (by decide) (.refl _)
    split at hbehind
    · cases hbehind
    · exact .cons (by decide) (skips_of_behindFraction hbehind)
  · rename_i c text _
    split at hbehind
    · dsimp only at hbehind
      split at hbehind
      · cases hbehind
      · have hsafe : IsSafe ((c :: text).takeWhile Decimal.isDigit) :=
          fun d hd => safe_of_isDigit (List.mem_takeWhile_imp hd)
        have hskips := Skips.append hsafe (skips_of_behindFraction hbehind)
        rwa [List.takeWhile_append_dropWhile] at hskips
    · exact skips_of_behindOne hbehind

/-- A search that fails passes over a string or part of one, or over next to nothing. -/
theorem skips_of_missByte? (hmiss : missByte? text = some rest) :
    Skips text rest ∨ ∃ body, text = '"' :: body ∧ behindString (body.length + 1) body = some rest := by
  unfold missByte? at hmiss
  split at hmiss
  · cases hmiss
  · exact Or.inl (.cons (by decide) (skips_of_behindWord (by decide) hmiss))
  · exact Or.inl (.cons (by decide) (skips_of_behindWord (by decide) hmiss))
  · exact Or.inl (.cons (by decide) (skips_of_behindWord (by decide) hmiss))
  · exact Or.inl (.cons (by decide) (skips_of_behindNumber hmiss))
  · exact Or.inr ⟨_, rfl, hmiss⟩
  · split at hmiss
    · exact Or.inl (skips_of_behindNumber hmiss)
    · cases hmiss
      exact Or.inl (.refl _)

end RollupBridge.Json
