import Mathlib.Data.List.Infix
import Mathlib.Data.List.TakeWhile
import Mathlib.Tactic.Common
import SearchQuery.Text.LetterCase

/-!
# Lower case of part of a text

Only the lower case of a capital sigma depends on what stands around it.

- `lowerWithin` is the lower case of a part of a text. It is the same in two surroundings just if
  each capital sigma of the part has the same form in both (`lowerWithin_congr`,
  `sameSigmas_of_lowerWithin_eq`).
- A capital sigma is settled (`IsSettled`) in a part if what is put around the part never changes
  its form (`endsWord_of_isSettled`, `endsWord_of_not_isSettled`).
- A text in lower case is part of every text it is part of, in lower case, just if all its capital
  sigmas are settled (`lowerFrom_infix_iff`).
-/

namespace SearchQuery.Text

variable {before after text : List Char}

/-! ## Parts -/

/-- The lower case of `text` where `before` stands before it (backwards) and `after` after it. -/
def lowerWithin (before : List Char) : (text after : List Char) → List Char
  | [], _ => []
  | c :: text, after => lowerChar before c (text ++ after) ++ lowerWithin (c :: before) text after

theorem lowerFrom_append (before text after : List Char) : lowerFrom before (text ++ after) =
    lowerWithin before text after ++ lowerFrom (text.reverse ++ before) after := by
  induction text generalizing before with
  | nil => rfl
  | cons c text ih =>
    rw [List.cons_append, lowerFrom, lowerWithin, ih]
    simp

theorem lowerWithin_append (before text text' after : List Char) :
    lowerWithin before (text ++ text') after =
      lowerWithin before text (text' ++ after) ++
        lowerWithin (text.reverse ++ before) text' after := by
  induction text generalizing before with
  | nil => rfl
  | cons c text ih =>
    rw [List.cons_append, lowerWithin, lowerWithin, ih]
    simp

theorem lowerWithin_nil (before text : List Char) :
    lowerWithin before text [] = lowerFrom before text := by
  have h := lowerFrom_append before text []
  rw [List.append_nil, lowerFrom, List.append_nil] at h
  exact h.symm

theorem lowerFrom_around (u s v : List Char) : lowerFrom [] (u ++ s ++ v) =
    lowerWithin [] u (s ++ v) ++ lowerWithin u.reverse s v ++
      lowerFrom ((u ++ s).reverse ++ []) v := by
  rw [lowerFrom_append, lowerWithin_append, List.append_nil]

/-! ## Context -/

/-- The lower case of a capital sigma. -/
def lowerSigma (before after : List Char) : Char := if endsWord before after then 'ς' else 'σ'

theorem lowerChar_sigma (before after : List Char) :
    lowerChar before 'Σ' after = [lowerSigma before after] := by
  rw [lowerChar, if_neg (by decide), if_pos rfl, lowerSigma]

theorem lowerChar_of_ne_sigma {c : Char} (h : c ≠ 'Σ') (before after before' after' : List Char) :
    lowerChar before c after = lowerChar before' c after' := by
  rw [lowerChar, lowerChar, if_neg h, if_neg h]

/-- The lower case of a part is as long whatever stands around it. -/
theorem length_lowerWithin (before after before' after' text : List Char) :
    (lowerWithin before text after).length = (lowerWithin before' text after').length := by
  induction text generalizing before before' with
  | nil => rfl
  | cons c text ih =>
    rw [lowerWithin, lowerWithin, List.length_append, List.length_append, ih _ (c :: before')]
    by_cases hc : c = 'Σ'
    · rw [hc, lowerChar_sigma, lowerChar_sigma]
      rfl
    · rw [lowerChar_of_ne_sigma hc]

/-- Each capital sigma of the part has the same form in both surroundings. -/
def SameSigmas (before after before' after' text : List Char) : Prop :=
  ∀ p q, text = p ++ 'Σ' :: q →
    endsWord (p.reverse ++ before) (q ++ after) = endsWord (p.reverse ++ before') (q ++ after')

theorem lowerWithin_congr {before' after' : List Char}
    (h : SameSigmas before after before' after' text) :
    lowerWithin before text after = lowerWithin before' text after' := by
  induction text generalizing before before' with
  | nil => rfl
  | cons c text ih =>
    have hrest : SameSigmas (c :: before) after (c :: before') after' text := by
      intro p q htext
      have := h (c :: p) q (by rw [htext]; rfl)
      simpa using this
    have hchar : lowerChar before c (text ++ after) = lowerChar before' c (text ++ after') := by
      by_cases hc : c = 'Σ'
      · subst hc
        have hfirst := h [] text rfl
        rw [lowerChar_sigma, lowerChar_sigma, lowerSigma, lowerSigma]
        rw [List.reverse_nil, List.nil_append, List.nil_append] at hfirst
        rw [hfirst]
      · exact lowerChar_of_ne_sigma hc _ _ _ _
    rw [lowerWithin, lowerWithin, hchar, ih hrest]

theorem sameSigmas_of_lowerWithin_eq {before' after' : List Char}
    (h : lowerWithin before text after = lowerWithin before' text after') :
    SameSigmas before after before' after' text := by
  rintro p q rfl
  rw [lowerWithin_append, lowerWithin_append] at h
  have hrest := (List.append_inj h (length_lowerWithin _ _ _ _ p)).2
  rw [lowerWithin, lowerWithin, lowerChar_sigma, lowerChar_sigma] at hrest
  have hsigma : lowerSigma (p.reverse ++ before) (q ++ after) =
      lowerSigma (p.reverse ++ before') (q ++ after') := (List.cons.inj hrest).1
  unfold lowerSigma at hsigma
  split at hsigma <;> split at hsigma <;> simp_all

/-! ## Settled sigmas -/

/-- The text has only characters that are passed over, so that what follows it decides whether a
cased letter is met. -/
def IsOpen (text : List Char) : Prop := ∀ c ∈ text, caseIgnorable.contains c

theorem meetsCased_append_of_isOpen (h : IsOpen text) (rest : List Char) :
    meetsCased (text ++ rest) = meetsCased rest := by
  rw [meetsCased, List.dropWhile_append_of_pos h, meetsCased]

theorem meetsCased_append_of_not_isOpen (h : ¬ IsOpen text) (rest : List Char) :
    meetsCased (text ++ rest) = meetsCased text := by
  have hne : text.dropWhile caseIgnorable.contains ≠ [] := by
    rwa [Ne, List.dropWhile_eq_nil_iff]
  obtain ⟨c, cs, hc⟩ := List.exists_cons_of_ne_nil hne
  rw [meetsCased, List.dropWhile_append, hc, meetsCased, hc]
  rfl

theorem meetsCased_of_isOpen (h : IsOpen text) : meetsCased text = false := by
  have hnil := meetsCased_append_of_isOpen h []
  rwa [List.append_nil] at hnil

/-- What stands around tells the form of the sigma between `before` (backwards) and `after`: a cased
letter follows it; or the character before it is known, and if that is a cased letter then the one
after it is known too. -/
def IsSettled (before after : List Char) : Prop :=
  meetsCased after ∨ ¬ IsOpen before ∧ (meetsCased before → ¬ IsOpen after)

/-- All capital sigmas of the text are settled in it. -/
def SettledSigmas (text : List Char) : Prop :=
  ∀ p q, text = p ++ 'Σ' :: q → IsSettled p.reverse q

theorem endsWord_of_isSettled (h : IsSettled before after) (u v : List Char) :
    endsWord (before ++ u) (after ++ v) = endsWord before after := by
  unfold endsWord
  obtain hafter | ⟨hbefore, hafter⟩ := h
  · have hclosed : ¬ IsOpen after := fun hopen => by simp [meetsCased_of_isOpen hopen] at hafter
    rw [meetsCased_append_of_not_isOpen hclosed, hafter, Bool.not_true, Bool.and_false,
      Bool.and_false]
  · rw [meetsCased_append_of_not_isOpen hbefore]
    cases hcased : meetsCased before with
    | false => rfl
    | true => rw [meetsCased_append_of_not_isOpen (hafter hcased)]

/-- Any letter after a sigma that is not settled takes from it that it is final, or else any letter
before it makes it so. -/
theorem endsWord_of_not_isSettled (h : ¬ IsSettled before after) :
    (∀ x, meetsCased [x] → endsWord before (after ++ [x]) ≠ endsWord before after) ∨
      ∀ x, meetsCased [x] → endsWord (before ++ [x]) after ≠ endsWord before after := by
  rw [IsSettled, not_or, Bool.not_eq_true] at h
  obtain ⟨hafter, h⟩ := h
  unfold endsWord
  by_cases hopen : IsOpen before
  · right
    intro x hx
    rw [meetsCased_append_of_isOpen hopen, meetsCased_of_isOpen hopen, hx, hafter]
    decide
  · left
    intro x hx
    rw [not_and, Classical.not_imp, not_not] at h
    obtain ⟨hcased, hopen'⟩ := h hopen
    rw [meetsCased_append_of_isOpen hopen', hcased, hx, hafter]
    decide

/-! ## Parts found in the whole -/

theorem eq_or_getLast?_of_infix {x : Char} {l m : List Char} (h : l <:+: m ++ [x])
    (hlength : l.length = m.length) (hne : l ≠ []) : l = m ∨ l.getLast? = some x := by
  obtain ⟨front, tail, h⟩ := h
  rcases List.eq_nil_or_concat tail with rfl | ⟨tail, y, rfl⟩
  · right
    have hlast := congrArg List.getLast? h
    rwa [List.append_nil, List.getLast?_concat, List.getLast?_append_of_ne_nil _ hne] at hlast
  · left
    rw [List.concat_eq_append, ← List.append_assoc] at h
    have hfront := (List.append_inj' h rfl).1
    have hnil : front.length = 0 ∧ tail.length = 0 := by
      have := congrArg List.length hfront
      simp only [List.length_append] at this
      omega
    rw [List.length_eq_zero_iff.1 hnil.1, List.length_eq_zero_iff.1 hnil.2] at hfront
    simpa using hfront

theorem eq_or_head?_of_infix {x : Char} {l m : List Char} (h : l <:+: x :: m)
    (hlength : l.length = m.length) (hne : l ≠ []) : l = m ∨ l.head? = some x := by
  have hreverse : l.reverse <:+: m.reverse ++ [x] := by
    rw [← List.reverse_cons]
    exact List.reverse_infix.2 h
  have := eq_or_getLast?_of_infix hreverse (by simpa using hlength) (by simpa using hne)
  simpa using this

theorem lowerFrom_ne_nil_of_sigma (p q : List Char) : lowerFrom [] (p ++ 'Σ' :: q) ≠ [] := by
  rw [lowerFrom_append, lowerFrom, lowerChar_sigma]
  simp

/-- A text found in itself and a letter more ends in that letter, unless its sigmas are the same
there. -/
theorem getLast?_of_infix {x : Char} {s : List Char}
    (hx : ∀ before after, lowerChar before x after = [x]) (hne : lowerFrom [] s ≠ [])
    (hsigmas : ¬ SameSigmas [] [] [] [x] s) (h : lowerFrom [] s <:+: lowerFrom [] (s ++ [x])) :
    (lowerFrom [] s).getLast? = some x := by
  rw [lowerFrom_append, lowerFrom, lowerFrom, hx, List.append_nil] at h
  rw [← lowerWithin_nil] at h hne ⊢
  have hsame := eq_or_getLast?_of_infix h (length_lowerWithin _ _ _ _ s) hne
  exact hsame.resolve_left fun heq => hsigmas (sameSigmas_of_lowerWithin_eq heq)

/-- A text found in a letter and itself starts with that letter, unless its sigmas are the same
there. -/
theorem head?_of_infix {x : Char} {s : List Char}
    (hx : ∀ before after, lowerChar before x after = [x]) (hne : lowerFrom [] s ≠ [])
    (hsigmas : ¬ SameSigmas [] [] [x] [] s) (h : lowerFrom [] s <:+: lowerFrom [] (x :: s)) :
    (lowerFrom [] s).head? = some x := by
  rw [lowerFrom, hx] at h
  rw [← lowerWithin_nil, ← lowerWithin_nil [x]] at h
  rw [← lowerWithin_nil] at hne ⊢
  have hsame := eq_or_head?_of_infix h (length_lowerWithin _ _ _ _ s) hne
  exact hsame.resolve_left fun heq => hsigmas (sameSigmas_of_lowerWithin_eq heq)

/-- **Parts of a text in lower case.** The lower case of a text is part of that of every text it is
part of, just if all its capital sigmas are settled. -/
theorem lowerFrom_infix_iff (s : List Char) :
    (∀ u v, lowerFrom [] s <:+: lowerFrom [] (u ++ s ++ v)) ↔
      SettledSigmas s := by
  constructor
  · rintro h p q rfl
    by_contra hsettled
    have hne := lowerFrom_ne_nil_of_sigma p q
    -- no text has both of two letters at the same end
    obtain hends | hends := endsWord_of_not_isSettled hsettled
    · have hlast (x : Char) (hcased : meetsCased [x])
          (hx : ∀ before after, lowerChar before x after = [x]) :
          (lowerFrom [] (p ++ 'Σ' :: q)).getLast? = some x := by
        refine getLast?_of_infix hx hne (fun hsame => hends x hcased ?_) (h [] [x])
        have := hsame p q rfl
        rw [List.append_nil, List.append_nil] at this
        exact this.symm
      have ha := hlast 'a' (by decide) fun _ _ => rfl
      have hb := hlast 'b' (by decide) fun _ _ => rfl
      simp [ha] at hb
    · have hhead (x : Char) (hcased : meetsCased [x])
          (hx : ∀ before after, lowerChar before x after = [x]) :
          (lowerFrom [] (p ++ 'Σ' :: q)).head? = some x := by
        have hinfix := h [x] []
        rw [List.append_nil] at hinfix
        refine head?_of_infix hx hne (fun hsame => hends x hcased ?_) hinfix
        have := hsame p q rfl
        rw [List.append_nil, List.append_nil] at this
        exact this.symm
      have ha := hhead 'a' (by decide) fun _ _ => rfl
      have hb := hhead 'b' (by decide) fun _ _ => rfl
      simp [ha] at hb
  · intro h u v
    have hsame : SameSigmas u.reverse v [] [] s := by
      intro p q hs
      rw [endsWord_of_isSettled (h p q hs), List.append_nil, List.append_nil]
    rw [lowerFrom_around, lowerWithin_congr hsame, lowerWithin_nil]
    exact List.infix_append _ _ _

end SearchQuery.Text
