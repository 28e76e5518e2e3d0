import SchemaBinding.Proofs.Naming.Words

/-! # Where words break
The words of a text hold its letters and numbers in order, so each of those stands in one word,
which is found by counting the letters and numbers before it. Two of them with none in between stand
in different words exactly if something separates them, or if the second one is in upper case and
the first one is in lower case or a number. -/

namespace SchemaBinding.Naming

open SchemaBinding.Text

variable {α : Type} {text between : List Char} {a b c : Char} {i j : Nat}

/-! ## Numbers of words -/

/-- The **number** of the word that holds a character, by the place of the character in the joined
words. -/
def wordAt : List (List α) → Nat → Nat
  | [], _ => 0
  | word :: rest, place =>
    if place < word.length then 0 else wordAt rest (place - word.length) + 1

/-- The characters of the first word are in the word with number 0. -/
theorem wordAt_cons_of_lt {word : List α} {place : Nat} (h : place < word.length)
    (rest : List (List α)) : wordAt (word :: rest) place = 0 := if_pos h

/-- Behind the first word, numbers go on from those of the other words. -/
theorem wordAt_cons_length (word : List α) (rest : List (List α)) (place : Nat) :
    wordAt (word :: rest) (word.length + place) = wordAt rest place + 1 := by
  rw [wordAt, if_neg (Nat.not_lt.2 (Nat.le_add_right _ _)), Nat.add_sub_cancel_left]

/-- Words that stand before others are counted **first**. -/
theorem wordAt_append (words rest : List (List α)) (place : Nat) :
    wordAt (words ++ rest) (words.flatten.length + place) = words.length + wordAt rest place := by
  induction words with
  | nil => simp
  | cons word words ih =>
    rw [List.cons_append, List.flatten_cons, List.length_append, Nat.add_assoc,
      wordAt_cons_length, ih, List.length_cons]
    omega

/-- The place of a character in the joined words of a text: as many characters stand before it as
there are letters and numbers before its position in the text. -/
def placeOf (text : List Char) (position : Nat) : Nat :=
  (text.take position).countP isAlphanumeric

/-- As many characters stand before a place as there are letters and numbers before it in the
text. -/
theorem placeOf_length (before rest : List Char) :
    placeOf (before ++ rest) before.length = (before.filter isAlphanumeric).length := by
  rw [placeOf, List.take_left, List.countP_eq_length_filter]

/-! ## The word under construction -/

section Steps

variable {last : Char} (more rest : List Char)

/-- A letter or number **opens** a word. -/
theorem wordsFrom_open (hc : isAlphanumeric c = true) :
    wordsFrom [] (c :: rest) = wordsFrom [c] rest := by
  rw [wordsFrom, if_pos hc]

/-- A step to upper case completes a word and opens another one. -/
theorem wordsFrom_step (hc : isAlphanumeric c = true)
    (hstep : (isUppercase c && endsWord last) = true) :
    wordsFrom (last :: more) (c :: rest) = (last :: more).reverse :: wordsFrom [c] rest := by
  rw [wordsFrom, if_pos hc, if_pos hstep]

/-- Any other letter or number **joins** the word. -/
theorem wordsFrom_join (hc : isAlphanumeric c = true)
    (hstep : (isUppercase c && endsWord last) = false) :
    wordsFrom (last :: more) (c :: rest) = wordsFrom (c :: last :: more) rest := by
  rw [wordsFrom, if_pos hc, if_neg (Bool.eq_false_iff.1 hstep)]

/-- A separator is skipped where no word is open. -/
theorem wordsFrom_skip (hc : isAlphanumeric c = false) :
    wordsFrom [] (c :: rest) = wordsFrom [] rest := by
  rw [wordsFrom, if_neg (Bool.eq_false_iff.1 hc), List.isEmpty_nil, if_pos rfl]

/-- A separator **completes** the word that is open. -/
theorem wordsFrom_close (hc : isAlphanumeric c = false) :
    wordsFrom (last :: more) (c :: rest) = (last :: more).reverse :: wordsFrom [] rest := by
  rw [wordsFrom, if_neg (Bool.eq_false_iff.1 hc), List.isEmpty_cons, if_neg Bool.false_ne_true]

end Steps

/-- After a part of a text, some words are complete and another one is **under construction**,
whatever comes next. -/
theorem exists_wordsFrom_append (pending before : List Char) :
    ∃ (complete : List (List Char)) (next : List Char),
      complete.flatten ++ next.reverse = pending.reverse ++ before.filter isAlphanumeric ∧
        ∀ rest, wordsFrom pending (before ++ rest) = complete ++ wordsFrom next rest := by
  induction before generalizing pending with
  | nil => exact ⟨[], pending, by simp, fun rest => rfl⟩
  | cons c before ih =>
    cases hc : isAlphanumeric c with
    | true =>
      rw [List.filter_cons_of_pos hc]
      cases pending with
      | nil =>
        -- a word begins
        obtain ⟨complete, next, hflatten, hwords⟩ := ih [c]
        refine ⟨complete, next, hflatten, fun rest => ?_⟩
        rw [List.cons_append, wordsFrom_open _ hc, hwords]
      | cons last more =>
        cases hstep : isUppercase c && endsWord last with
        | true =>
          -- the word ends before an upper-case letter, which begins the next one
          obtain ⟨complete, next, hflatten, hwords⟩ := ih [c]
          refine ⟨(last :: more).reverse :: complete, next, ?_, fun rest => ?_⟩
          · rw [List.flatten_cons, List.append_assoc, hflatten]
            rfl
          · rw [List.cons_append, wordsFrom_step _ _ hc hstep, hwords, List.cons_append]
        | false =>
          -- the word goes on
          obtain ⟨complete, next, hflatten, hwords⟩ := ih (c :: last :: more)
          refine ⟨complete, next, ?_, fun rest => ?_⟩
          · rw [hflatten, List.reverse_cons, List.append_assoc, List.singleton_append]
          · rw [List.cons_append, wordsFrom_join _ _ hc hstep, hwords]
    | false =>
      -- a separator ends the word, if there is one
      rw [List.filter_cons_of_neg (Bool.eq_false_iff.1 hc)]
      obtain ⟨complete, next, hflatten, hwords⟩ := ih []
      cases pending with
      | nil =>
        refine ⟨complete, next, hflatten, fun rest => ?_⟩
        rw [List.cons_append, wordsFrom_skip _ hc, hwords]
      | cons last more =>
        refine ⟨(last :: more).reverse :: complete, next, ?_, fun rest => ?_⟩
        · rw [List.flatten_cons, List.append_assoc, hflatten]
          rfl
        · rw [List.cons_append, wordsFrom_close _ _ hc, hwords, List.cons_append]

/-- A letter or number is the **last** character of the word under construction behind it. -/
theorem exists_words_append (ha : isAlphanumeric a = true) (before : List Char) :
    ∃ (complete : List (List Char)) (more : List Char),
      complete.flatten ++ more.reverse = before.filter isAlphanumeric ∧
        ∀ rest, words (before ++ a :: rest) = complete ++ wordsFrom (a :: more) rest := by
  obtain ⟨complete, next, hflatten, hwords⟩ := exists_wordsFrom_append [] before
  rw [List.reverse_nil, List.nil_append] at hflatten
  cases next with
  | nil =>
    refine ⟨complete, [], hflatten, fun rest => ?_⟩
    rw [words, hwords, wordsFrom_open _ ha]
  | cons last more =>
    cases hstep : isUppercase a && endsWord last with
    | true =>
      refine ⟨complete ++ [(last :: more).reverse], [], ?_, fun rest => ?_⟩
      · rw [← hflatten, List.flatten_concat, List.reverse_nil, List.append_nil]
      · rw [words, hwords, wordsFrom_step _ _ ha hstep, List.append_assoc, List.singleton_append]
    | false =>
      refine ⟨complete, last :: more, hflatten, fun rest => ?_⟩
      rw [words, hwords, wordsFrom_join _ _ ha hstep]

/-- The word under construction **becomes** a word. -/
theorem exists_wordsFrom_eq_cons (last : Char) (more rest : List Char) :
    ∃ tail others, wordsFrom (last :: more) rest =
      (more.reverse ++ last :: tail) :: others := by
  induction rest generalizing last more with
  | nil =>
    refine ⟨[], [], ?_⟩
    rw [wordsFrom, List.isEmpty_cons, if_neg Bool.false_ne_true, List.reverse_cons]
  | cons c rest ih =>
    cases hc : isAlphanumeric c with
    | true =>
      cases hstep : isUppercase c && endsWord last with
      | true =>
        refine ⟨[], wordsFrom [c] rest, ?_⟩
        rw [wordsFrom_step _ _ hc hstep, List.reverse_cons]
      | false =>
        obtain ⟨tail, others, h⟩ := ih c (last :: more)
        refine ⟨c :: tail, others, ?_⟩
        rw [wordsFrom_join _ _ hc hstep, h, List.reverse_cons, List.append_assoc,
          List.singleton_append]
    | false =>
      refine ⟨[], wordsFrom [] rest, ?_⟩
      rw [wordsFrom_close _ _ hc, List.reverse_cons]

/-! ## Neighbours -/

/-- Two letters or numbers of a text are **neighbours** when no other one stands between them. -/
structure Neighbours (text : List Char) (i j : Nat) (a b : Char) : Prop where
  lt : i < j
  first : text[i]? = some a
  second : text[j]? = some b
  isAlphanumeric_first : isAlphanumeric a = true
  isAlphanumeric_second : isAlphanumeric b = true
  between : ∀ k c, i < k → k < j → text[k]? = some c → isAlphanumeric c = false

/-- What stands before neighbours, between them and behind them. -/
theorem Neighbours.exists_append (h : Neighbours text i j a b) :
    ∃ before between behind, text = before ++ a :: (between ++ b :: behind) ∧
      before.length = i ∧ between.length + i + 1 = j ∧
        ∀ c ∈ between, isAlphanumeric c = false := by
  obtain ⟨hi, ha⟩ := List.getElem?_eq_some_iff.1 h.first
  obtain ⟨hj, hb⟩ := List.getElem?_eq_some_iff.1 h.second
  have hlt := h.lt
  refine ⟨text.take i, (text.drop (i + 1)).take (j - i - 1), text.drop (j + 1), ?_, ?_, ?_, ?_⟩
  · have hrest : text.drop (i + 1) =
        (text.drop (i + 1)).take (j - i - 1) ++ b :: text.drop (j + 1) := by
      have hsplit := List.take_append_drop (j - i - 1) (text.drop (i + 1))
      rw [List.drop_drop, show i + 1 + (j - i - 1) = j by omega, List.drop_eq_getElem_cons hj,
        hb] at hsplit
      exact hsplit.symm
    rw [← hrest, ← ha, ← List.drop_eq_getElem_cons hi, List.take_append_drop]
  · rw [List.length_take]
    omega
  · rw [List.length_take, List.length_drop]
    omega
  · intro c hc
    obtain ⟨k, hget⟩ := List.mem_iff_getElem?.1 hc
    have hk : k < j - i - 1 := by
      have hlength := (List.getElem?_eq_some_iff.1 hget).1
      rw [List.length_take] at hlength
      omega
    rw [List.getElem?_take, if_pos hk, List.getElem?_drop] at hget
    exact h.between (i + 1 + k) c (by omega) (by omega) hget

/-- Neighbours follow **each other** in the joined words. -/
theorem Neighbours.placeOf_eq (h : Neighbours text i j a b) :
    placeOf text j = placeOf text i + 1 := by
  obtain ⟨before, between, behind, rfl, rfl, rfl, hbetween⟩ := h.exists_append
  have hlength : between.length + before.length + 1 = (before ++ a :: between).length := by
    rw [List.length_append, List.length_cons]
    omega
  have hnone : between.filter isAlphanumeric = [] :=
    List.filter_eq_nil_iff.2 fun c hc => Bool.eq_false_iff.1 (hbetween c hc)
  rw [placeOf_length, hlength, ← List.cons_append, ← List.append_assoc, placeOf_length,
    List.filter_append, List.filter_cons_of_pos h.isAlphanumeric_first, hnone, List.length_append,
    List.length_singleton]

/-- Between neighbours that something separates, or at a step to upper case, the word **ends**. -/
theorem exists_wordsFrom_of_break (hb : isAlphanumeric b = true)
    (hbetween : ∀ c ∈ between, isAlphanumeric c = false) (more behind : List Char)
    (h : between ≠ [] ∨ (isUppercase b && endsWord a) = true) :
    ∃ others, wordsFrom (a :: more) (between ++ b :: behind) = (a :: more).reverse :: others := by
  cases between with
  | nil =>
    have hstep := h.resolve_left fun hne => hne rfl
    exact ⟨wordsFrom [b] behind, wordsFrom_step _ _ hb hstep⟩
  | cons c between =>
    have hc : isAlphanumeric c = false := hbetween c List.mem_cons_self
    exact ⟨wordsFrom [] (between ++ b :: behind), wordsFrom_close _ _ hc⟩

/-! ## Words that are cut exactly -/

/-- Words hold a character of a text **where it belongs**: in the word of its number, behind the
letters and numbers that stand before it in the text. -/
def HoldsAt (words : List (List Char)) (text : List Char) (position : Nat) (c : Char) : Prop :=
  ∃ front head tail others, words = front ++ (head ++ c :: tail) :: others ∧
    front.length = wordAt words (placeOf text position) ∧
    front.flatten ++ head = (text.take position).filter isAlphanumeric

/-- Words that are **cut exactly** out of a text. -/
structure CutFrom (words : List (List Char)) (text : List Char) : Prop where
  /-- No word is empty. -/
  ne_nil : ∀ word ∈ words, word ≠ []
  /-- Nothing but separators is lost. -/
  flatten : words.flatten = text.filter isAlphanumeric
  /-- Every letter or number stands in the word of its number. -/
  holds : ∀ i c, text[i]? = some c → isAlphanumeric c = true → HoldsAt words text i c
  /-- Neighbours are in different words exactly if others separate them, or at a step to upper
  case. -/
  breaks : ∀ i j a b, Neighbours text i j a b →
    (wordAt words (placeOf text i) ≠ wordAt words (placeOf text j) ↔
      i + 1 < j ∨ j = i + 1 ∧ isUppercase b = true ∧ (isLowercase a = true ∨ isNumeric a = true))

/-- A letter or number stands in the word that was **under construction** when it was read. -/
theorem holdsAt_words (hget : text[i]? = some c) (hc : isAlphanumeric c = true) :
    HoldsAt (words text) text i c := by
  obtain ⟨hi, hget⟩ := List.getElem?_eq_some_iff.1 hget
  have htext : text = text.take i ++ c :: text.drop (i + 1) := by
    rw [← hget, ← List.drop_eq_getElem_cons hi, List.take_append_drop]
  obtain ⟨complete, more, hflatten, hwords⟩ := exists_words_append hc (text.take i)
  obtain ⟨tail, others, hword⟩ := exists_wordsFrom_eq_cons c more (text.drop (i + 1))
  have hall : words text = complete ++ (more.reverse ++ c :: tail) :: others :=
    calc words text = words (text.take i ++ c :: text.drop (i + 1)) := congrArg words htext
      _ = complete ++ (more.reverse ++ c :: tail) :: others := by rw [hwords, hword]
  refine ⟨complete, more.reverse, tail, others, hall, ?_, hflatten⟩
  rw [placeOf, List.countP_eq_length_filter, ← hflatten, List.length_append, hall, wordAt_append,
    wordAt_cons_of_lt (by simp), Nat.add_zero]

/-- The word of one neighbour **ends** before the other exactly at separators and steps. -/
theorem wordAt_ne_iff (h : Neighbours text i j a b) :
    wordAt (words text) (placeOf text i) ≠ wordAt (words text) (placeOf text j) ↔
      i + 1 < j ∨
        j = i + 1 ∧ isUppercase b = true ∧ (isLowercase a = true ∨ isNumeric a = true) := by
  rw [h.placeOf_eq]
  obtain ⟨before, between, behind, rfl, rfl, rfl, hbetween⟩ := h.exists_append
  obtain ⟨complete, more, hflatten, hwords⟩ := exists_words_append h.isAlphanumeric_first before
  have hfirst : placeOf (before ++ a :: (between ++ b :: behind)) before.length =
      complete.flatten.length + more.length := by
    rw [placeOf_length, ← hflatten, List.length_append, List.length_reverse]
  have hbreak : (between ≠ [] ∨ (isUppercase b && endsWord a) = true) ↔
      before.length + 1 < between.length + before.length + 1 ∨
        between.length + before.length + 1 = before.length + 1 ∧ isUppercase b = true ∧
          (isLowercase a = true ∨ isNumeric a = true) := by
    rw [Bool.and_eq_true, endsWord, Bool.or_eq_true]
    cases between with
    | nil => simp
    | cons c between => simp
  rw [hwords, hfirst, Nat.add_assoc, wordAt_append, wordAt_append, Ne, Nat.add_left_cancel_iff,
    ← hbreak]
  -- the first neighbour is the last of the word under construction: either this word ends, or the
  -- second neighbour joins it
  by_cases hcut : between ≠ [] ∨ (isUppercase b && endsWord a) = true
  · obtain ⟨others, hothers⟩ :=
      exists_wordsFrom_of_break h.isAlphanumeric_second hbetween more behind hcut
    have hlength : more.length + 1 = (a :: more).reverse.length + 0 := by simp
    rw [hothers, wordAt_cons_of_lt (by simp), hlength, wordAt_cons_length]
    exact iff_of_true (Nat.succ_ne_zero _).symm hcut
  · obtain ⟨hempty, hstep⟩ := not_or.1 hcut
    obtain rfl := not_not.1 hempty
    obtain ⟨tail, others, hone⟩ := exists_wordsFrom_eq_cons b (a :: more) behind
    rw [List.nil_append,
      wordsFrom_join _ _ h.isAlphanumeric_second (Bool.eq_false_iff.2 hstep), hone,
      wordAt_cons_of_lt (by simp), wordAt_cons_of_lt (by simp)]
    exact iff_of_false (fun hne => hne rfl) hcut

/-- The words of a text are **cut exactly** out of it: they lose nothing but separators, and they
break at separators and at steps to upper case, and nowhere else. -/
theorem cutFrom_words (s : String) : CutFrom (words s.toList) s.toList where
  ne_nil _ hword := ne_nil_of_mem_wordsFrom hword
  flatten := flatten_words s.toList
  holds _ _ := holdsAt_words
  breaks _ _ _ _ := wordAt_ne_iff

/-- Digits end a word as small letters do, capitals do not, and it does not matter how many
separators there are. -/
example : words "--PDFFile2Page  no.3x".toList =
    ["PDFFile2".toList, "Page".toList, "no".toList, "3x".toList] := by
  decide +kernel

end SchemaBinding.Naming
