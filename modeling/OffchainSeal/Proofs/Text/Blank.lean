import Mathlib
import OffchainSeal.Text.Blank

/-!
# Trimming and leads

* `trim_append`: blanks around a text are cut off, up to the first and the last
  character that is none.
* `trim_trim`: a trimmed text has none to cut off.
* `after?_eq_some_iff`: what is left after a lead.
-/

namespace OffchainSeal.Text

variable {front cs back : List Char}

theorem dropWhile_blank_append (h : ∀ c ∈ front, isBlank c = true)
    (hcs : ∀ c ∈ cs.head?, isBlank c = false) : (front ++ cs).dropWhile isBlank = cs := by
  rw [List.dropWhile_append_of_pos h]
  cases cs with
  | nil => rfl
  | cons c cs => exact List.dropWhile_cons_of_neg (by rw [hcs c rfl]; decide)

/-- Blanks around a text that neither begins nor ends with one are what is cut off. -/
theorem trim_append (hf : ∀ c ∈ front, isBlank c = true) (hb : ∀ c ∈ back, isBlank c = true)
    (hhead : ∀ c ∈ cs.head?, isBlank c = false) (hlast : ∀ c ∈ cs.getLast?, isBlank c = false) :
    trim (front ++ cs ++ back) = cs := by
  unfold trim
  cases cs with
  | nil =>
    have hall : ∀ c ∈ front ++ [] ++ back, isBlank c = true := by
      intro c hc
      rw [List.append_nil] at hc
      rcases List.mem_append.mp hc with hc | hc
      · exact hf c hc
      · exact hb c hc
    rw [List.dropWhile_eq_nil_iff.mpr hall]
    rfl
  | cons c cs =>
    have hfirst : ∀ d ∈ (c :: cs ++ back).head?, isBlank d = false := by
      intro d hd
      exact hhead d hd
    have hback : ∀ d ∈ back.reverse, isBlank d = true := fun d hd => hb d (List.mem_reverse.mp hd)
    have hend : ∀ d ∈ (c :: cs).reverse.head?, isBlank d = false := by
      rw [List.head?_reverse]
      exact hlast
    rw [List.append_assoc, dropWhile_blank_append hf hfirst, List.reverse_append,
      dropWhile_blank_append hback hend, List.reverse_reverse]

theorem trim_append_of_forall (hf : ∀ c ∈ front, isBlank c = true)
    (hb : ∀ c ∈ back, isBlank c = true) (hcs : ∀ c ∈ cs, isBlank c = false) :
    trim (front ++ cs ++ back) = cs :=
  trim_append hf hb (fun c hc => hcs c (List.mem_of_mem_head? hc))
    (fun c hc => hcs c (List.mem_of_mem_getLast? hc))

theorem not_blank_of_head?_dropWhile {s : List Char} {c : Char}
    (h : c ∈ (s.dropWhile isBlank).head?) : isBlank c = false := by
  have hnot := List.head?_dropWhile_not isBlank s
  rw [Option.mem_def.mp h] at hnot
  exact hnot

/-- A trimmed text is how the text goes on behind its first blanks. -/
theorem trim_prefix (s : List Char) : trim s <+: s.dropWhile isBlank := by
  have hsuffix := List.dropWhile_suffix isBlank (l := (s.dropWhile isBlank).reverse)
  rw [← List.reverse_prefix, List.reverse_reverse] at hsuffix
  exact hsuffix

/-- A trimmed text neither begins nor ends with a blank, so trimming it changes nothing. -/
theorem trim_trim (s : List Char) : trim (trim s) = trim s := by
  have hhead : ∀ c ∈ (trim s).head?, isBlank c = false := by
    intro c hc
    obtain ⟨back, hback⟩ := trim_prefix s
    apply not_blank_of_head?_dropWhile (s := s)
    rw [← hback, List.head?_append_of_ne_nil]
    · exact hc
    · rintro hnil
      rw [hnil] at hc
      cases hc
  have hlast : ∀ c ∈ (trim s).getLast?, isBlank c = false := by
    intro c hc
    unfold trim at hc
    rw [List.getLast?_reverse] at hc
    exact not_blank_of_head?_dropWhile hc
  have h := trim_append (List.forall_mem_nil _) (List.forall_mem_nil _) hhead hlast
  rwa [List.nil_append, List.append_nil] at h

/-- No printed character of ASCII is a blank. -/
theorem not_blank_of_ascii {c : Char} (h : 32 < c.toNat) (h' : c.toNat < 128) :
    isBlank c = false := by
  unfold isBlank
  simp only [Bool.or_eq_false_iff, Bool.and_eq_false_iff, decide_eq_false_iff_not]
  omega

theorem after?_eq_some_iff {lead s body : List Char} :
    after? lead s = some body ↔ s = lead ++ body := by
  unfold after?
  constructor
  · intro h
    split_ifs at h with hlead
    rw [← Option.some.inj h]
    exact (List.prefix_iff_eq_append.mp (List.isPrefixOf_iff_prefix.mp hlead)).symm
  · rintro rfl
    have hlead := List.isPrefixOf_iff_prefix.mpr (List.prefix_append lead body)
    rw [if_pos hlead, List.drop_left]

end OffchainSeal.Text
