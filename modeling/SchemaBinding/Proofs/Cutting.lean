import SchemaBinding.Text.Split

/-! # Cutting texts
Each way of cutting a text gives pieces that make it up again, together with what was cut out. -/

namespace SchemaBinding.Text

variable {sep c : Char} {pattern text piece before after rest : List Char}

/-! ## Behind a pattern -/

/-- What comes after a start is the rest of the text behind it. -/
theorem afterStart_eq_some :
    afterStart pattern text = some rest ↔ text = pattern ++ rest := by
  induction pattern generalizing text with
  | nil => simp [afterStart]
  | cons p pattern ih =>
    cases text with
    | nil => simp [afterStart]
    | cons c text =>
      unfold afterStart
      split
      · rename_i heq
        simp [heq, ih]
      · rename_i hne
        simp [Ne.symm hne]

/-- What comes after the first occurrence of a pattern stands behind the pattern. -/
theorem eq_append_of_afterFirst (h : afterFirst pattern text = some rest) :
    ∃ before, text = before ++ (pattern ++ rest) := by
  induction text with
  | nil =>
    unfold afterFirst at h
    split at h
    · rename_i hempty
      cases h
      exact ⟨[], by simpa using hempty⟩
    · cases h
  | cons c more ih =>
    unfold afterFirst at h
    split at h
    · rename_i hstart
      cases h
      exact ⟨[], (afterStart_eq_some.1 hstart :)⟩
    · obtain ⟨before, rfl⟩ := ih h
      exact ⟨c :: before, rfl⟩

/-- A text occurs inside another when that is made up of it and of what stands around it. -/
theorem occursIn_iff {part whole : String} :
    occursIn part whole = true ↔ part.toList <:+: whole.toList := by
  unfold occursIn
  rw [Option.isSome_iff_exists]
  constructor
  · rintro ⟨rest, hrest⟩
    obtain ⟨before, hwhole⟩ := eq_append_of_afterFirst hrest
    exact ⟨before, rest, by rw [hwhole, List.append_assoc]⟩
  · rintro ⟨before, rest, hwhole⟩
    rw [← hwhole]
    clear hwhole
    -- by what stands before the occurrence; the first one may begin earlier
    induction before with
    | nil =>
      cases htext : [] ++ part.toList ++ rest with
      | nil =>
        obtain ⟨hpart, -⟩ := List.append_eq_nil_iff.1 htext
        exact ⟨[], by rw [show part.toList = [] from hpart]; rfl⟩
      | cons c text =>
        have hstart : afterStart part.toList (c :: text) = some rest :=
          afterStart_eq_some.2 htext.symm
        exact ⟨rest, by rw [afterFirst, hstart]⟩
    | cons c before ih =>
      obtain ⟨after, hafter⟩ := ih
      show ∃ after, afterFirst part.toList (c :: (before ++ part.toList ++ rest)) = some after
      rw [afterFirst]
      cases afterStart part.toList (c :: (before ++ part.toList ++ rest)) with
      | some other => exact ⟨other, rfl⟩
      | none => exact ⟨after, hafter⟩

/-! ## At a separator -/

/-- A text is not cut when the separator does not occur in it. -/
theorem cutAt_eq_none : cutAt sep text = none ↔ sep ∉ text := by
  induction text with
  | nil => simp [cutAt]
  | cons c rest ih =>
    unfold cutAt
    split
    · rename_i heq
      simp [heq]
    · rename_i hne
      simp [ih, Ne.symm hne]

/-- A text is cut at the **first** separator in it. -/
theorem cutAt_eq_some :
    cutAt sep text = some (before, after) ↔ sep ∉ before ∧ text = before ++ sep :: after := by
  induction text generalizing before with
  | nil => simp [cutAt]
  | cons c rest ih =>
    unfold cutAt
    -- either the separator comes first, or it is looked for in the rest
    split
    · rename_i heq
      subst heq
      constructor
      · rintro ⟨⟩
        simp
      · rintro ⟨hbefore, htext⟩
        cases before with
        | nil => simpa using htext
        | cons b before => simp_all
    · rename_i hne
      rw [Option.map_eq_some_iff]
      constructor
      · rintro ⟨⟨before, after⟩, hcut, ⟨⟩⟩
        obtain ⟨hbefore, htext⟩ := ih.1 hcut
        simp [hbefore, htext, Ne.symm hne]
      · rintro ⟨hbefore, htext⟩
        cases before with
        | nil => simp_all
        | cons b before =>
          obtain ⟨rfl, hrest⟩ := List.cons.inj htext
          exact ⟨(before, after), ih.2 ⟨fun h => hbefore (.tail _ h), hrest⟩, rfl⟩

/-- A text that is cut at its last separator consists of both parts and the separator between
them. -/
theorem eq_append_of_cutAtLast (h : cutAtLast sep text = some (before, after)) :
    text = before ++ sep :: after := by
  induction text generalizing before with
  | nil => cases h
  | cons c more ih =>
    unfold cutAtLast at h
    split at h
    · rename_i hmore
      cases h
      rw [ih hmore]
      rfl
    · split at h
      · rename_i heq
        cases h
        rw [heq]
        rfl
      · cases h

/-! ## At all separators -/

/-- Texts are split as lists are split. -/
theorem splitOn_eq_splitOn (sep : Char) (text : List Char) :
    splitOn sep text = List.splitOn sep text := by
  induction text with
  | nil => rfl
  | cons c rest ih =>
    unfold splitOn
    rw [List.splitOn_cons_eq_if_modifyHead, ← ih]
    by_cases hc : c = sep
    · simp [hc]
    · cases hpieces : splitOn sep rest with
      | nil => exact absurd hpieces (splitOn_ne_nil sep rest)
      | cons piece pieces => simp [hc]

/-- Pieces without the separator are what their **join** is cut into. -/
theorem splitOn_intercalate {pieces : List (List Char)} (hne : pieces ≠ [])
    (hsep : ∀ piece ∈ pieces, sep ∉ piece) :
    splitOn sep ([sep].intercalate pieces) = pieces := by
  rw [splitOn_eq_splitOn, List.splitOn_intercalate sep hsep hne]

/-- The pieces hold characters of the text alone. -/
theorem mem_of_mem_splitOn (hpiece : piece ∈ splitOn sep text) (hc : c ∈ piece) : c ∈ text := by
  induction text generalizing piece with
  | nil =>
    obtain rfl : piece = [] := by simpa [splitOn] using hpiece
    cases hc
  | cons d rest ih =>
    unfold splitOn at hpiece
    split at hpiece
    · rcases List.mem_cons.1 hpiece with rfl | hpiece
      · cases hc
      · exact List.mem_cons_of_mem d (ih hpiece hc)
    · cases hpieces : splitOn sep rest with
      | nil => exact absurd hpieces (splitOn_ne_nil sep rest)
      | cons first others =>
        rw [hpieces] at hpiece ih
        rcases List.mem_cons.1 hpiece with rfl | hpiece
        · rcases List.mem_cons.1 hc with rfl | hc
          · exact List.mem_cons_self
          · exact List.mem_cons_of_mem d (ih List.mem_cons_self hc)
        · exact List.mem_cons_of_mem d (ih (List.mem_cons_of_mem first hpiece) hc)

end SchemaBinding.Text
