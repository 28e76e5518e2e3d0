import Mathlib.Data.List.Basic
import SchemaBinding.Naming.Convention
import SchemaBinding.Proofs.Naming.Identifier

/-! # Names that stay as they are
The words of a text are its letters and numbers, cut into pieces. Joining them may make and remove
the steps from lower to upper case between which words are told apart, but never so that another
conversion would change a character: within a joined name a word begins in upper case already. So
the class name and the property name for an ASCII text are identifiers that are their own names. -/

namespace SchemaBinding.Naming

open SchemaBinding.Text

variable {text name pending rest : List Char} {c : Char} {form : Char → List Char}

/-! ## Words -/

/-- The words of a text hold its letters and numbers, **in order**. -/
theorem flatten_wordsFrom (pending text : List Char) :
    (wordsFrom pending text).flatten = pending.reverse ++ text.filter isAlphanumeric := by
  induction text generalizing pending with
  | nil => cases pending <;> simp [wordsFrom]
  | cons c rest ih =>
    unfold wordsFrom
    by_cases hc : isAlphanumeric c = true
    · rw [if_pos hc, List.filter_cons_of_pos hc]
      cases pending with
      | nil => simp [ih]
      | cons last before =>
        dsimp only
        split
        · simp [ih]
        · simp [ih]
    · rw [if_neg hc, List.filter_cons_of_neg hc]
      cases pending with
      | nil => simp [ih]
      | cons last before => simp [ih]

/-- The words of a text are its letters and numbers, in the same order. -/
theorem flatten_words (text : List Char) : (words text).flatten = text.filter isAlphanumeric :=
  flatten_wordsFrom [] text

/-- No word is empty. -/
theorem ne_nil_of_mem_wordsFrom {word : List Char} (h : word ∈ wordsFrom pending text) :
    word ≠ [] := by
  induction text generalizing pending with
  | nil =>
    cases pending with
    | nil => simp [wordsFrom] at h
    | cons last before =>
      obtain rfl : word = (last :: before).reverse := by simpa [wordsFrom] using h
      simp
  | cons c rest ih =>
    unfold wordsFrom at h
    cases pending with
    | nil => split at h <;> exact ih h
    | cons last before =>
      have hcut {next : List Char}
          (hword : word ∈ (last :: before).reverse :: wordsFrom next rest) : word ≠ [] := by
        rcases List.mem_cons.1 hword with rfl | hword
        · simp
        · exact ih hword
      dsimp only at h
      split at h
      · split at h
        · exact hcut h
        · exact ih h
      · exact hcut h

/-- A separator at the **end** of a text does not matter for its words. -/
theorem wordsFrom_append_separator (hc : isAlphanumeric c = false) (pending text : List Char) :
    wordsFrom pending (text ++ [c]) = wordsFrom pending text := by
  induction text generalizing pending with
  | nil => cases pending <;> simp [wordsFrom, hc]
  | cons d rest ih =>
    rw [List.cons_append]
    cases pending <;> simp only [wordsFrom, ih]

/-- What makes a name usable does not matter for its **words**. -/
theorem words_usable (name : List Char) : words (usable name).toList = words name := by
  have hseparator : isAlphanumeric '_' = false := rfl
  have hreserved (name : List Char) : words (guardReserved name) = words name := by
    unfold guardReserved words
    split
    · exact wordsFrom_append_separator hseparator [] name
    · rfl
  have hnumber : words (guardNumber name) = words name := by
    cases name with
    | nil => rfl
    | cons first rest =>
      unfold guardNumber
      dsimp only
      split
      · rfl
      · rfl
  rw [usable, String.toList_ofList, hreserved, hnumber]

/-! ## Joined words -/

/-- A word whose first character takes another form. -/
def recased (form : Char → List Char) : List Char → List Char
  | [] => []
  | first :: rest => form first ++ rest

/-- Words **joined** into one: the first one takes a form, and the others are capitalized. -/
def joined (form : Char → List Char) : List (List Char) → List Char
  | [] => []
  | first :: rest => recased form first ++ rest.flatMap capitalized

/-- Recasing reaches the first character only, so what is appended stays. -/
theorem recased_append (form : Char → List Char) (h : name ≠ []) (rest : List Char) :
    recased form (name ++ rest) = recased form name ++ rest := by
  cases name with
  | nil => exact absurd rfl h
  | cons first more => simp [recased]

/-- To capitalize is to recase to upper case. -/
theorem capitalized_eq (word : List Char) : capitalized word = recased upper word := by
  cases word <;> rfl

/-- To uncapitalize is to recase to lower case. -/
theorem uncapitalized_eq (word : List Char) : uncapitalized word = recased lower word := by
  cases word <;> rfl

/-- Capitalized words in a row are words joined with the first one in upper case. -/
theorem flatMap_capitalized (words : List (List Char)) :
    words.flatMap capitalized = joined upper words := by
  cases words with
  | nil => rfl
  | cons first rest => rw [List.flatMap_cons, capitalized_eq, joined]

/-- A class name is the words of its text joined with the first one in upper case, made usable. -/
theorem className_eq (s : String) : className s = usable (joined upper (words s.toList)) := by
  rw [className, flatMap_capitalized]

/-- A property name is the words of its text joined with the first one in lower case, made
usable. -/
theorem propertyName_eq (s : String) : propertyName s = usable (joined lower (words s.toList)) := by
  unfold propertyName
  cases words s.toList with
  | nil => rfl
  | cons first rest =>
    dsimp only
    rw [uncapitalized_eq, joined]

/-- A text of letters and numbers alone is joined to **what it was**, but for the form of its first
character: it is cut only before upper case, which capitals do not change. -/
theorem joined_wordsFrom (form : Char → List Char) (hpending : pending ≠ [])
    (halphanumeric : ∀ c ∈ text, isAlphanumeric c = true)
    (hupper : ∀ c ∈ text, isUppercase c = true → upper c = [c]) :
    joined form (wordsFrom pending text) = recased form (pending.reverse ++ text) := by
  induction text generalizing pending form with
  | nil => simp [wordsFrom, hpending, joined]
  | cons c rest ih =>
    obtain ⟨last, before, rfl⟩ := List.exists_cons_of_ne_nil hpending
    have hrest (form : Char → List Char) {pending : List Char} (h : pending ≠ []) :=
      ih form h (fun d hd => halphanumeric d (List.mem_cons_of_mem c hd))
        fun d hd => hupper d (List.mem_cons_of_mem c hd)
    unfold wordsFrom
    rw [if_pos (halphanumeric c List.mem_cons_self)]
    dsimp only
    split
    · rename_i hcut
      have hc : upper c = [c] := hupper c List.mem_cons_self (Bool.and_eq_true_iff.1 hcut).1
      have htail : (wordsFrom [c] rest).flatMap capitalized = c :: rest := by
        rw [flatMap_capitalized, hrest upper (List.cons_ne_nil c [])]
        simp [recased, hc]
      rw [joined, htail, recased_append form (by simp)]
    · rw [hrest form (List.cons_ne_nil c _)]
      simp

/-- Cutting up a text of letters and numbers and joining it again recases its first character, and
nothing else. -/
theorem joined_words (form : Char → List Char)
    (halphanumeric : ∀ c ∈ text, isAlphanumeric c = true)
    (hupper : ∀ c ∈ text, isUppercase c = true → upper c = [c]) :
    joined form (words text) = recased form text := by
  cases text with
  | nil => rfl
  | cons first rest =>
    unfold words wordsFrom
    rw [if_pos (halphanumeric first List.mem_cons_self)]
    exact joined_wordsFrom form (List.cons_ne_nil first [])
      (fun c hc => halphanumeric c (List.mem_cons_of_mem first hc))
      fun c hc => hupper c (List.mem_cons_of_mem first hc)

/-! ## ASCII -/

/-- A **plain** character is an ASCII letter or digit. -/
def Plain (c : Char) : Prop := c.toNat < 0x80 ∧ isAlphanumeric c = true

instance : DecidablePred Plain := fun c =>
  inferInstanceAs (Decidable (c.toNat < 0x80 ∧ isAlphanumeric c = true))

/-- What holds of the 128 characters of ASCII holds of every ASCII character. -/
theorem of_ascii {P : Char → Prop} (h : ∀ code < 0x80, P (Char.ofNat code)) (hc : c.toNat < 0x80) :
    P c := by
  simpa using h c.toNat hc

/-- A plain character may follow in an identifier, and may open one unless it is a digit. -/
theorem Plain.sound (h : Plain c) : follows c = true ∧ (isNumeric c = true ∨ opens c = true) :=
  of_ascii (P := fun c => Plain c → follows c = true ∧ (isNumeric c = true ∨ opens c = true))
    (by decide) h.1 h

/-- A plain upper-case letter is its own upper case. -/
theorem Plain.upper_eq (h : Plain c) (hc : isUppercase c = true) : upper c = [c] :=
  of_ascii (P := fun c => isUppercase c = true → upper c = [c]) (by decide) h.1 hc

/-- A form of characters is **steady** when it turns plain characters into plain ones which it keeps
as they are. -/
def Steady (form : Char → List Char) : Prop :=
  ∀ c, Plain c → ∃ d, form c = [d] ∧ Plain d ∧ form d = [d]

/-- Upper case is steady. -/
theorem steady_upper : Steady upper := by
  intro c hc
  refine ⟨c.toUpper, by simp [upper, hc.1], ?_⟩
  exact of_ascii (P := fun c => Plain c → Plain c.toUpper ∧ upper c.toUpper = [c.toUpper])
    (by decide) hc.1 hc

/-- Lower case is steady. -/
theorem steady_lower : Steady lower := by
  intro c hc
  refine ⟨c.toLower, by simp [lower, hc.1], ?_⟩
  exact of_ascii (P := fun c => Plain c → Plain c.toLower ∧ lower c.toLower = [c.toLower])
    (by decide) hc.1 hc

/-- A plain name is **sound**. -/
theorem sound_of_plain (hname : name ≠ []) (h : ∀ c ∈ name, Plain c) : Sound name := by
  obtain ⟨first, rest, rfl⟩ := List.exists_cons_of_ne_nil hname
  refine ⟨?_, fun c hc => (h c (List.mem_cons_of_mem first hc)).sound.1⟩
  obtain ⟨hfollows, hopens⟩ := (h first List.mem_cons_self).sound
  split
  · exact hfollows
  · exact hopens.resolve_left ‹_›

namespace Steady

/-- A recased plain word is plain, and keeps its form. -/
theorem recased (h : Steady form) (hname : name ≠ []) (hplain : ∀ c ∈ name, Plain c) :
    ∃ first rest, recased form name = first :: rest ∧ form first = [first] ∧
      ∀ c ∈ first :: rest, Plain c := by
  obtain ⟨c, rest, rfl⟩ := List.exists_cons_of_ne_nil hname
  obtain ⟨d, hd, hdplain, hform⟩ := h c (hplain c List.mem_cons_self)
  refine ⟨d, rest, by simp [Naming.recased, hd], hform, ?_⟩
  exact List.forall_mem_cons.2 ⟨hdplain, fun c' hc' => hplain c' (List.mem_cons_of_mem c hc')⟩

/-- Plain words are joined to a plain name which **keeps its form**. -/
theorem joined (h : Steady form) {words : List (List Char)} (hwords : words ≠ [])
    (hne : ∀ word ∈ words, word ≠ []) (hplain : ∀ word ∈ words, ∀ c ∈ word, Plain c) :
    ∃ first rest, joined form words = first :: rest ∧ form first = [first] ∧
      ∀ c ∈ first :: rest, Plain c := by
  obtain ⟨word, others, rfl⟩ := List.exists_cons_of_ne_nil hwords
  obtain ⟨first, rest, hfirst, hform, hfirstPlain⟩ :=
    h.recased (hne word List.mem_cons_self) (hplain word List.mem_cons_self)
  refine ⟨first, rest ++ others.flatMap capitalized, ?_, hform, ?_⟩
  · rw [Naming.joined, hfirst, List.cons_append]
  · rw [← List.cons_append]
    refine List.forall_mem_append.2 ⟨hfirstPlain, fun c hc => ?_⟩
    -- every other word is plain once it is capitalized
    obtain ⟨other, hother, hc⟩ := List.mem_flatMap.1 hc
    have hmem := List.mem_cons_of_mem word hother
    obtain ⟨d, more, hother', -, hotherPlain⟩ :=
      steady_upper.recased (hne other hmem) (hplain other hmem)
    rw [capitalized_eq, hother'] at hc
    exact hotherPlain c hc

/-- The words of an ASCII text are joined to a usable name that is an **identifier**, and whose
words are joined to the same name again. -/
theorem usable_joined (h : Steady form) (hascii : ∀ c ∈ text, c.toNat < 0x80)
    (hword : ∃ c ∈ text, isAlphanumeric c = true) :
    isIdentifier (usable (Naming.joined form (words text))) = true ∧
      Naming.joined form (words (usable (Naming.joined form (words text))).toList) =
        Naming.joined form (words text) := by
  have hflatten := flatten_words text
  have hplain : ∀ word ∈ words text, ∀ c ∈ word, Plain c := by
    intro word hw c hc
    have hmem : c ∈ text.filter isAlphanumeric := hflatten ▸ List.mem_flatten_of_mem hw hc
    exact ⟨hascii c (List.mem_filter.1 hmem).1, (List.mem_filter.1 hmem).2⟩
  have hwords : words text ≠ [] := by
    intro hnone
    obtain ⟨d, hd, halphanumeric⟩ := hword
    rw [hnone] at hflatten
    exact List.not_mem_nil (hflatten ▸ List.mem_filter.2 ⟨hd, halphanumeric⟩)
  obtain ⟨first, rest, hjoined, hform, hname⟩ :=
    h.joined hwords (fun _ hw => ne_nil_of_mem_wordsFrom hw) hplain
  rw [hjoined, isIdentifier_usable_iff, words_usable]
  refine ⟨sound_of_plain (List.cons_ne_nil first rest) hname, ?_⟩
  rw [joined_words form (fun c hc => (hname c hc).2) fun c hc => (hname c hc).upper_eq,
    Naming.recased, hform]
  rfl

end Steady

/-- The class name and the property name for an ASCII text with a letter or a digit are
**identifiers**, and each is its own name. -/
theorem isIdentifier_and_idempotent {s : String} (hascii : ∀ c ∈ s.toList, c.toNat < 0x80)
    (hword : ∃ c ∈ s.toList, c.isAlpha = true ∨ c.isDigit = true) :
    (isIdentifier (className s) = true ∧ className (className s) = className s) ∧
      (isIdentifier (propertyName s) = true ∧
        propertyName (propertyName s) = propertyName s) := by
  have hword' : ∃ c ∈ s.toList, isAlphanumeric c = true := by
    obtain ⟨c, hc, hletter⟩ := hword
    refine ⟨c, hc, ?_⟩
    unfold isAlphanumeric
    rw [classify_ascii (hascii c hc)]
    simpa [Char.isAlphanum] using hletter
  obtain ⟨hclass, hclass'⟩ := steady_upper.usable_joined hascii hword'
  obtain ⟨hproperty, hproperty'⟩ := steady_lower.usable_joined hascii hword'
  rw [className_eq s, propertyName_eq s]
  refine ⟨⟨hclass, ?_⟩, hproperty, ?_⟩
  · rw [className_eq, hclass']
  · rw [propertyName_eq, hproperty']

/-- A reserved word, from which a property name is made by a `_` behind it. -/
theorem isIdentifier_and_idempotent_class :
    (className "class" = "Class" ∧ propertyName "class" = "class_") ∧
      (isIdentifier (className "class") = true ∧
        className (className "class") = className "class") ∧
      (isIdentifier (propertyName "class") = true ∧
        propertyName (propertyName "class") = propertyName "class") :=
  ⟨by decide +kernel, isIdentifier_and_idempotent (by simp) (by simp)⟩

end SchemaBinding.Naming
