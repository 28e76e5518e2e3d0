import SchemaBinding.Schema.Fragment

/-! # Reading fragments
A reader of fragments sees nothing but their text. It takes one line after another, tells from the
characters of a line what tag it holds, and keeps the keywords of the tags that are open. A line
that stands at another depth, or that closes another tag than the one opened last, is refused. -/

namespace SchemaBinding

/-! ## Signs -/

/-- What a line **says**: the tag that it holds, by its keyword. -/
inductive Sign where
  | opening (keyword : List Char)
  | closing (keyword : List Char)
  | single (keyword : List Char)
  deriving DecidableEq, Repr

namespace Sign

/-- Whether a text may stand for the attributes of a tag: it is empty, or begins with a space and
ends with a quotation mark. -/
def isAttributes (text : List Char) : Bool :=
  text.isEmpty || (text.head? == some ' ' && text.getLast? == some '"')

/-- The sign of a keyword with what follows it. A single tag ends with a slash before its last
character, an opening one does not. -/
def ofEnd (keyword rest : List Char) : Option Sign :=
  if keyword = [] then none
  else if ['/', '>'] <:+ rest ∧ isAttributes rest.dropLast.dropLast then some (.single keyword)
  else if ['>'] <:+ rest ∧ isAttributes rest.dropLast then some (.opening keyword)
  else none

/-- The **sign** of a text, if it is that of a tag. -/
def read? : List Char → Option Sign
  | '<' :: '/' :: text =>
    let keyword := text.takeWhile Char.isAlpha
    if keyword ≠ [] ∧ text.dropWhile Char.isAlpha = ['>'] then some (.closing keyword) else none
  | '<' :: text => ofEnd (text.takeWhile Char.isAlpha) (text.dropWhile Char.isAlpha)
  | _ => none

/-- What is open **after** a sign behind so many spaces, if so much was open before, the tag opened
last first. -/
def follow (unclosed : List (List Char)) (spaces : Nat) : Sign → Option (List (List Char))
  | single _ => if spaces = 2 * unclosed.length then some unclosed else none
  | opening keyword => if spaces = 2 * unclosed.length then some (keyword :: unclosed) else none
  | closing keyword =>
    if unclosed.head? = some keyword ∧ spaces = 2 * unclosed.tail.length then some unclosed.tail
    else none

end Sign

/-- **Reads** a line while so much is open. -/
def readLine (unclosed : List (List Char)) (line : List Char) : Option (List (List Char)) :=
  (Sign.read? (line.dropWhile (· == ' '))).bind
    (Sign.follow unclosed (line.takeWhile (· == ' ')).length)

/-- A text is **balanced** if its lines can be read one after another, with no tag open before the
first nor after the last. Every line ends with a line break. -/
def Balanced (text : String) : Prop :=
  ∃ lines, text.toList.splitOn '\n' = lines ++ [[]] ∧ lines.foldlM readLine [] = some []

/-! ## Signs of tags -/

/-- A **keyword** consists of letters. -/
def IsKeyword (keyword : String) : Prop :=
  keyword.toList ≠ [] ∧ ∀ c ∈ keyword.toList, c.isAlpha = true

instance (keyword : String) : Decidable (IsKeyword keyword) :=
  decidable_of_iff (keyword.toList ≠ [] ∧ keyword.toList.all Char.isAlpha = true)
    (by simp [IsKeyword])

namespace Sign

variable {keyword : String}

/-- The text of attributes is empty, or stands between a space and a quotation mark. -/
theorem attributesText_cases (attributes : List (String × String)) :
    (Tag.attributesText attributes).toList = [] ∨
      ∃ middle, (Tag.attributesText attributes).toList = ' ' :: (middle ++ ['"']) := by
  induction attributes with
  | nil => exact .inl rfl
  | cons first rest ih =>
    have hcons : (Tag.attributesText (first :: rest)).toList =
        ' ' :: (first.1.toList ++ '=' :: '"' :: first.2.toList ++ ['"']) ++
          (Tag.attributesText rest).toList := by
      simp [Tag.attributesText]
    rw [hcons]
    rcases ih with hnil | ⟨middle, hmiddle⟩
    · exact .inr ⟨_, by rw [hnil, List.append_nil]⟩
    · refine .inr ⟨first.1.toList ++ '=' :: '"' :: first.2.toList ++ '"' :: ' ' :: middle, ?_⟩
      simp [hmiddle]

/-- What is written for attributes passes for attributes. -/
theorem isAttributes_attributesText (attributes : List (String × String)) :
    isAttributes (Tag.attributesText attributes).toList = true := by
  rcases attributesText_cases attributes with hnil | ⟨middle, hmiddle⟩
  · rw [hnil]
    rfl
  · have hlast : (' ' :: (middle ++ ['"'])).getLast? = some '"' := by
      rw [← List.cons_append, List.getLast?_concat]
    rw [hmiddle, isAttributes, hlast]
    rfl

/-- A keyword is read up to the first character that is no letter. -/
theorem takeWhile_keyword (h : IsKeyword keyword) {rest : List Char}
    (hrest : ∀ c ∈ rest.head?, c.isAlpha = false) :
    (keyword.toList ++ rest).takeWhile Char.isAlpha = keyword.toList ∧
      (keyword.toList ++ rest).dropWhile Char.isAlpha = rest := by
  rw [List.takeWhile_append_of_pos h.2, List.dropWhile_append_of_pos h.2]
  cases rest with
  | nil => simp
  | cons c rest =>
    have hc := hrest c rfl
    simp [hc]

/-- Behind a keyword stands no letter. -/
theorem isAlpha_attributesText (attributes : List (String × String)) {c : Char} {rest : List Char}
    (hc : c.isAlpha = false) :
    ∀ c' ∈ ((Tag.attributesText attributes).toList ++ c :: rest).head?, c'.isAlpha = false := by
  rcases attributesText_cases attributes with hnil | ⟨middle, hmiddle⟩
  · rw [hnil]
    rintro _ ⟨⟩
    exact hc
  · rw [hmiddle]
    rintro _ ⟨⟩
    decide

/-- A closing tag is read as the end of its keyword. -/
theorem read?_closing (h : IsKeyword keyword) :
    read? (Tag.closing keyword).text.toList = some (.closing keyword.toList) := by
  have hend : ∀ c ∈ ['>'].head?, c.isAlpha = false := by simp
  obtain ⟨htake, hdrop⟩ := takeWhile_keyword h hend
  simp [Tag.text, read?, htake, hdrop, h.1]

/-- Behind a keyword the end of the text decides. -/
theorem read?_keyword (h : IsKeyword keyword) {rest : List Char}
    (hrest : ∀ c ∈ rest.head?, c.isAlpha = false) :
    read? ('<' :: (keyword.toList ++ rest)) = ofEnd keyword.toList rest := by
  obtain ⟨htake, hdrop⟩ := takeWhile_keyword h hrest
  obtain ⟨first, others, hfirst⟩ := List.exists_cons_of_ne_nil h.1
  have hslash : first ≠ '/' := by
    rintro rfl
    have halpha := h.2 '/' (by rw [hfirst]; exact List.mem_cons_self)
    revert halpha
    decide
  rw [hfirst, List.cons_append] at htake hdrop ⊢
  rw [read?, htake, hdrop]
  rintro _ ⟨⟩
  exact hslash rfl

/-- A tag without content is read as such, whatever its attributes. -/
theorem read?_single (h : IsKeyword keyword) (attributes : List (String × String)) :
    read? (Tag.single keyword attributes).text.toList = some (.single keyword.toList) := by
  have htext : (Tag.single keyword attributes).text.toList =
      '<' :: (keyword.toList ++ ((Tag.attributesText attributes).toList ++ ['/', '>'])) := by
    simp [Tag.text]
  rw [htext, read?_keyword h (isAlpha_attributesText attributes (by decide)), ofEnd, if_neg h.1,
    if_pos]
  refine ⟨List.suffix_append _ _, ?_⟩
  rw [List.dropLast_append_cons]
  simpa using isAttributes_attributesText attributes

/-- An opening tag is read as the beginning of its keyword, whatever its attributes. -/
theorem read?_opening (h : IsKeyword keyword) (attributes : List (String × String)) :
    read? (Tag.opening keyword attributes).text.toList = some (.opening keyword.toList) := by
  have htext : (Tag.opening keyword attributes).text.toList =
      '<' :: (keyword.toList ++ ((Tag.attributesText attributes).toList ++ ['>'])) := by
    simp [Tag.text]
  rw [htext, read?_keyword h (isAlpha_attributesText attributes (by decide)), ofEnd, if_neg h.1,
    if_neg, if_pos]
  · refine ⟨List.suffix_append _ _, ?_⟩
    rw [List.dropLast_concat]
    exact isAttributes_attributesText attributes
  · -- before the last character stands the keyword or a quotation mark
    rintro ⟨hsuffix, -⟩
    rcases attributesText_cases attributes with hnil | ⟨middle, hmiddle⟩
    · rw [hnil] at hsuffix
      simpa using hsuffix.length_le
    · obtain ⟨before, hbefore⟩ := hsuffix
      have hend : before ++ ['/', '>'] = (' ' :: middle) ++ ['"', '>'] := by simp [hbefore, hmiddle]
      cases (List.append_inj' hend rfl).2

end Sign

/-! ## Lines -/

/-- The characters of a line, without its line break. -/
def FragmentLine.characters (l : FragmentLine) : List Char :=
  List.replicate (2 * l.depth) ' ' ++ l.tag.text.toList

namespace FragmentLine

variable {depth : Nat} {keyword : String} {unclosed : List (List Char)} {tag : Tag}

/-- A line is its characters and a line break. -/
theorem toList_text (l : FragmentLine) : l.text.toList = l.characters ++ ['\n'] := by
  have hindent (depth : Nat) :
      (String.join (List.replicate depth "  ")).toList = List.replicate (2 * depth) ' ' := by
    induction depth with
    | zero => rfl
    | succ depth ih =>
      rw [List.replicate_succ, String.join_cons, String.toList_append, ih, Nat.mul_succ]
      rfl
  simp [text, characters, hindent]

/-- A line is read by its depth and the sign of its tag, which starts with a bracket. -/
theorem readLine_characters (tag : Tag) :
    readLine unclosed (characters ⟨depth, tag⟩) =
      (Sign.read? tag.text.toList).bind (Sign.follow unclosed (2 * depth)) := by
  have hbracket : ∃ rest, tag.text.toList = '<' :: rest := by
    cases tag with
    | opening | closing | single => exact ⟨_, by simp only [Tag.text, String.toList_append]; rfl⟩
  obtain ⟨rest, hrest⟩ := hbracket
  have hspaces : ∀ c ∈ List.replicate (2 * depth) ' ', (c == ' ') = true := by
    intro c hc
    rw [(List.mem_replicate.1 hc).2]
    rfl
  unfold readLine characters
  rw [List.dropWhile_append_of_pos hspaces, List.takeWhile_append_of_pos hspaces, hrest]
  simp

/-- A tag without content, at the right depth, leaves open what is open. -/
theorem readLine_single (h : IsKeyword keyword) (attributes : List (String × String))
    (hdepth : unclosed.length = depth) :
    readLine unclosed (characters ⟨depth, .single keyword attributes⟩) = some unclosed := by
  rw [readLine_characters, Sign.read?_single h]
  simp [Sign.follow, hdepth]

/-- An opening tag, at the right depth, is open from then on. -/
theorem readLine_opening (h : IsKeyword keyword) (attributes : List (String × String))
    (hdepth : unclosed.length = depth) :
    readLine unclosed (characters ⟨depth, .opening keyword attributes⟩) =
      some (keyword.toList :: unclosed) := by
  rw [readLine_characters, Sign.read?_opening h]
  simp [Sign.follow, hdepth]

/-- A closing line is read at the depth of the line that opened its tag. -/
theorem readLine_closing (h : IsKeyword keyword) (hdepth : unclosed.length = depth) :
    readLine (keyword.toList :: unclosed) (characters ⟨depth, .closing keyword⟩) =
      some unclosed := by
  rw [readLine_characters, Sign.read?_closing h]
  simp [Sign.follow, hdepth]

end FragmentLine

end SchemaBinding
