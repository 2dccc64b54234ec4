import Mathlib.Data.List.Infix
import Mathlib.Tactic.Common

/-! The patterns of SQL's `LIKE`, and the texts that only a pattern without special
characters stands for. -/

namespace PublicLighting.Foundations.LikePatterns

inductive Token
  | any
  | one
  | literal (c : Char)
  | dangling
  deriving DecidableEq, Repr

/-- A backslash takes the next character literally. -/
def tokens : List Char → List Token
  | [] => []
  | c :: pattern =>
      if c = '\\' then
        match pattern with
        | [] => [.dangling]
        | d :: pattern => .literal d :: tokens pattern
      else if c = '%' then .any :: tokens pattern
      else if c = '_' then .one :: tokens pattern
      else .literal c :: tokens pattern

def fits : List Token → List Char → Bool
  | [], text => text.isEmpty
  | .any :: rest, text => text.tails.any (fits rest)
  | .one :: rest, text =>
      match text with
      | [] => false
      | _ :: text => fits rest text
  | .literal c :: rest, text =>
      match text with
      | [] => false
      | d :: text => c = d && fits rest text
  | .dangling :: _, _ => false

def like (pattern text : List Char) : Bool := fits (tokens pattern) text

def IsSpecial (c : Char) : Prop := c = '%' ∨ c = '_' ∨ c = '\\'

instance (c : Char) : Decidable (IsSpecial c) := inferInstanceAs (Decidable (_ ∨ _ ∨ _))

def Plain (pattern : List Char) : Prop := ∀ c ∈ pattern, ¬ IsSpecial c

instance (pattern : List Char) : Decidable (Plain pattern) := inferInstanceAs (Decidable (∀ c ∈ pattern, _))

section Tokens

theorem tokens_any (pattern : List Char) : tokens ('%' :: pattern) = .any :: tokens pattern := by
  simp [tokens.eq_def ('%' :: pattern)]

theorem tokens_one (pattern : List Char) : tokens ('_' :: pattern) = .one :: tokens pattern := by
  simp [tokens.eq_def ('_' :: pattern)]

theorem tokens_escape (c : Char) (pattern : List Char) :
    tokens ('\\' :: c :: pattern) = .literal c :: tokens pattern := by
  rw [tokens, if_pos rfl]

theorem tokens_literal {c : Char} (plain : ¬ IsSpecial c) (pattern : List Char) :
    tokens (c :: pattern) = .literal c :: tokens pattern := by
  simp only [IsSpecial, not_or] at plain
  simp [tokens.eq_def (c :: pattern), plain]

theorem fits_any (rest : List Token) (text : List Char) :
    fits (.any :: rest) text = true ↔ ∃ tail, tail <:+ text ∧ fits rest tail = true := by
  rw [fits, List.any_eq_true]
  simp only [List.mem_tails]

theorem fits_literal (c : Char) (rest : List Token) (text : List Char) :
    fits (.literal c :: rest) text = true ↔ ∃ tail, text = c :: tail ∧ fits rest tail = true := by
  cases text with
  | nil => simp [fits]
  | cons d text =>
      rw [fits, Bool.and_eq_true, decide_eq_true_iff]
      constructor
      · intro both
        exact ⟨text, by rw [both.1], both.2⟩
      · intro found
        obtain ⟨tail, shape, matched⟩ := found
        cases shape
        exact ⟨rfl, matched⟩

end Tokens

theorem like_plain {pattern : List Char} (plain : Plain pattern) (text : List Char) :
    like ('%' :: pattern ++ ['%']) text = true ↔ pattern <:+: text := by
  have front : ∀ text, like (pattern ++ ['%']) text = true ↔ pattern <+: text := by
    induction pattern with
    | nil =>
        intro text
        rw [List.nil_append, like, tokens_any, fits_any]
        constructor
        · intro _
          exact List.nil_prefix
        · intro _
          exact ⟨[], List.nil_suffix, rfl⟩
    | cons c pattern ih =>
        intro text
        have rest := ih fun other member => plain other (List.mem_cons_of_mem _ member)
        rw [List.cons_append, like, tokens_literal (plain c List.mem_cons_self), fits_literal]
        constructor
        · intro found
          obtain ⟨tail, shape, matched⟩ := found
          rw [shape, List.prefix_cons_inj]
          exact (rest tail).mp matched
        · intro found
          obtain ⟨tail, shape⟩ := found
          rw [← shape]
          exact ⟨pattern ++ tail, rfl, (rest _).mpr (List.prefix_append _ _)⟩
  rw [List.cons_append, like, tokens_any, fits_any]
  constructor
  · intro found
    obtain ⟨rest, suffix, matched⟩ := found
    exact List.infix_iff_prefix_suffix.mpr ⟨rest, (front rest).mp matched, suffix⟩
  · intro found
    obtain ⟨rest, begins, suffix⟩ := List.infix_iff_prefix_suffix.mp found
    exact ⟨rest, suffix, (front rest).mpr begins⟩

section Samples

/-- The shortest text that fits, with `filler` wherever any character does. -/
def sample (filler : Char) : List Token → List Char
  | [] => []
  | .any :: rest => sample filler rest
  | .one :: rest => filler :: sample filler rest
  | .literal c :: rest => c :: sample filler rest
  | .dangling :: _ => []

theorem fits_sample (filler : Char) {pattern : List Token} (whole : .dangling ∉ pattern) :
    fits pattern (sample filler pattern) = true := by
  induction pattern with
  | nil => rfl
  | cons token rest ih =>
      have later := ih fun member => whole (List.mem_cons_of_mem _ member)
      cases token with
      | any => exact (fits_any rest _).mpr ⟨_, List.suffix_refl _, later⟩
      | one => exact later
      | literal c => exact (fits_literal c rest _).mpr ⟨_, rfl, later⟩
      | dangling => exact absurd List.mem_cons_self whole

/-- A pattern that a `%` ends: what it begins with, and the shorter pattern that is left. -/
inductive Closed : List Char → Prop
  | empty : Closed []
  | lone : Closed ['\\']
  | escape (c : Char) {pattern : List Char} (rest : Closed pattern) : Closed ('\\' :: c :: pattern)
  | any {pattern : List Char} (rest : Closed pattern) : Closed ('%' :: pattern)
  | one {pattern : List Char} (rest : Closed pattern) : Closed ('_' :: pattern)
  | literal {c : Char} (plain : ¬ IsSpecial c) {pattern : List Char} (rest : Closed pattern) : Closed (c :: pattern)

theorem closed_all (pattern : List Char) : Closed pattern := by
  induction size : pattern.length using Nat.strongRecOn generalizing pattern with
  | ind size ih =>
      subst size
      cases pattern with
      | nil => exact .empty
      | cons c pattern =>
          have shorter : Closed pattern := ih _ (by simp) _ rfl
          by_cases special : IsSpecial c
          · rcases special with percent | underscore | backslash
            · rw [percent]
              exact .any shorter
            · rw [underscore]
              exact .one shorter
            · rw [backslash]
              cases pattern with
              | nil => exact .lone
              | cons d pattern => exact .escape d (ih _ (by simp only [List.length_cons]; omega) _ rfl)
          · exact .literal special shorter

/-- The `%` at its end keeps a pattern from ending in a backslash. -/
theorem closed_whole (pattern : List Char) : .dangling ∉ tokens (pattern ++ ['%']) := by
  induction closed_all pattern with
  | empty => simp [tokens]
  | lone => simp [tokens]
  | escape c rest ih => simpa [tokens_escape] using ih
  | any rest ih => simpa [tokens_any] using ih
  | one rest ih => simpa [tokens_one] using ih
  | literal plain rest ih => simpa [tokens_literal plain] using ih

theorem like_sample (filler : Char) (pattern : List Char) :
    like ('%' :: pattern ++ ['%']) (sample filler (tokens (pattern ++ ['%']))) = true := by
  rw [List.cons_append, like, tokens_any, fits_any]
  exact ⟨_, List.suffix_refl _, fits_sample filler (closed_whole pattern)⟩

theorem sample_short {filler : Char} (other : filler ≠ '_') (pattern : List Char) :
    (sample filler (tokens (pattern ++ ['%']))).length ≤ pattern.length ∧
      (sample filler (tokens (pattern ++ ['%'])) = pattern → Plain pattern) := by
  induction closed_all pattern with
  | empty => exact ⟨le_refl _, fun _ => nofun⟩
  | lone => exact ⟨by simp [tokens, sample], by simp [tokens, sample]⟩
  | escape c rest ih =>
      rw [List.cons_append, List.cons_append, tokens_escape, sample, List.length_cons, List.length_cons,
        List.length_cons]
      refine ⟨by omega, ?_⟩
      intro same
      have long := congrArg List.length same
      simp only [List.length_cons] at long
      omega
  | any rest ih =>
      rw [List.cons_append, tokens_any, sample, List.length_cons]
      refine ⟨by omega, ?_⟩
      intro same
      have long := congrArg List.length same
      rw [List.length_cons] at long
      omega
  | one rest ih =>
      rw [List.cons_append, tokens_one, sample, List.length_cons, List.length_cons]
      refine ⟨by omega, ?_⟩
      intro same
      exact absurd (List.cons.inj same).1 other
  | literal plain rest ih =>
      rw [List.cons_append, tokens_literal plain, sample, List.length_cons, List.length_cons]
      refine ⟨by omega, ?_⟩
      intro same
      exact List.forall_mem_cons.mpr ⟨plain, ih.2 (List.cons.inj same).2⟩

/-- Only a pattern without special characters is part of its sample. -/
theorem plain_within {filler : Char} (other : filler ≠ '_') {pattern : List Char}
    (part : pattern <:+: sample filler (tokens (pattern ++ ['%']))) : Plain pattern := by
  have short := sample_short other pattern
  exact short.2 (part.eq_of_length (le_antisymm part.length_le short.1)).symm

theorem mem_sample {filler c : Char} {pattern : List Char} (member : c ∈ sample filler (tokens (pattern ++ ['%']))) :
    c = filler ∨ c = '%' ∨ c ∈ pattern := by
  induction closed_all pattern with
  | empty => simp [tokens, sample] at member
  | lone =>
      simp only [List.singleton_append, tokens_escape, tokens, sample, List.mem_singleton] at member
      exact .inr (.inl member)
  | escape d rest ih =>
      rw [List.cons_append, List.cons_append, tokens_escape, sample, List.mem_cons] at member
      cases member with
      | inl same => exact .inr (.inr (same ▸ List.mem_cons_of_mem _ List.mem_cons_self))
      | inr later =>
          exact (ih later).imp_right (Or.imp_right fun inside =>
            List.mem_cons_of_mem _ (List.mem_cons_of_mem _ inside))
  | any rest ih =>
      rw [List.cons_append, tokens_any, sample] at member
      exact (ih member).imp_right (Or.imp_right (List.mem_cons_of_mem _))
  | one rest ih =>
      rw [List.cons_append, tokens_one, sample, List.mem_cons] at member
      cases member with
      | inl same => exact .inl same
      | inr later => exact (ih later).imp_right (Or.imp_right (List.mem_cons_of_mem _))
  | literal plain rest ih =>
      rw [List.cons_append, tokens_literal plain, sample, List.mem_cons] at member
      cases member with
      | inl same => exact .inr (.inr (same ▸ List.mem_cons_self))
      | inr later => exact (ih later).imp_right (Or.imp_right (List.mem_cons_of_mem _))

end Samples

section Folding

variable {fold : Char → Char}

/-- What changes no special character, and makes none, can be done before or after. -/
theorem sample_map (keeps : ∀ c special, IsSpecial special → (fold c = special ↔ c = special)) (filler : Char)
    (pattern : List Char) : sample (fold filler) (tokens ((pattern ++ ['%']).map fold)) =
      (sample filler (tokens (pattern ++ ['%']))).map fold := by
  have percent : fold '%' = '%' := (keeps _ _ (.inl rfl)).mpr rfl
  have underscore : fold '_' = '_' := (keeps _ _ (.inr (.inl rfl))).mpr rfl
  have backslash : fold '\\' = '\\' := (keeps _ _ (.inr (.inr rfl))).mpr rfl
  rw [List.map_append, List.map_singleton, percent]
  induction closed_all pattern with
  | empty => simp [tokens, sample]
  | lone => simp [tokens, sample, backslash, percent]
  | escape c rest ih =>
      rw [List.map_cons, List.map_cons, backslash, List.cons_append, List.cons_append, tokens_escape, sample, ih,
        List.cons_append, List.cons_append, tokens_escape, sample, List.map_cons]
  | any rest ih =>
      rw [List.map_cons, percent, List.cons_append, tokens_any, sample, ih, List.cons_append, tokens_any, sample]
  | one rest ih =>
      rw [List.map_cons, underscore, List.cons_append, tokens_one, sample, ih, List.cons_append, tokens_one, sample,
        List.map_cons]
  | @literal c plain pattern rest ih =>
      have folded : ¬ IsSpecial (fold c) := by
        intro special
        apply plain
        rw [(keeps c _ special).mp rfl]
        exact special
      rw [List.map_cons, List.cons_append, tokens_literal folded, sample, ih, List.cons_append, tokens_literal plain,
        sample, List.map_cons]

theorem plain_map (keeps : ∀ c special, IsSpecial special → (fold c = special ↔ c = special))
    {pattern : List Char} : Plain (pattern.map fold) ↔ Plain pattern := by
  have letter (c : Char) : IsSpecial (fold c) ↔ IsSpecial c := by
    constructor
    · intro special
      rw [(keeps c _ special).mp rfl]
      exact special
    · intro special
      rw [(keeps c c special).mpr rfl]
      exact special
  simp only [Plain, List.forall_mem_map, letter]

end Folding

end PublicLighting.Foundations.LikePatterns
