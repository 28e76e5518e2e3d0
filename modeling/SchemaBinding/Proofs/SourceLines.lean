import Mathlib.Data.String.Basic
import SchemaBinding.Diagnostic

/-! # The lines of registered sources
A locator without a span stands for a line of the source that it names. The line is looked up in a
**line table**, which cuts a text at its line feeds. The ranges of the lines follow each other from
the beginning of the text to its end, and the text of a source is the one that its name was first
registered with. -/

namespace SchemaBinding

open Text (byteLength byteLength_append)

/-- The length of a text in bytes is that of its UTF-8 form. -/
theorem Text.byteLength_eq_utf8Len (text : List Char) : byteLength text = String.utf8Len text := by
  induction text with
  | nil => rfl
  | cons c rest ih => rw [byteLength_cons, ih, String.utf8Len_cons, Nat.add_comm]

/-! ## Lines -/

variable {text rest before line after : List Char} {c : Char} {i n : Nat}

/-- A line feed ends the line that it is on. -/
theorem sourceLines_lineFeed (rest : List Char) :
    sourceLines ('\n' :: rest) = ['\n'] :: sourceLines rest := if_pos rfl

/-- Any other character belongs to the **first** line. -/
theorem exists_sourceLines_cons (hc : c ≠ '\n') (rest : List Char) : ∃ line lines,
    sourceLines rest = line :: lines ∧ sourceLines (c :: rest) = (c :: line) :: lines := by
  have hlines : sourceLines rest ≠ [] := by
    cases rest with
    | nil => simp [sourceLines]
    | cons d more =>
      unfold sourceLines
      split
      · simp
      · split <;> simp
  obtain ⟨line, lines, hlines⟩ := List.exists_cons_of_ne_nil hlines
  refine ⟨line, lines, hlines, ?_⟩
  rw [sourceLines, if_neg hc, hlines]

/-- A text is made up of its lines. -/
theorem flatten_sourceLines (text : List Char) : (sourceLines text).flatten = text := by
  induction text with
  | nil => rfl
  | cons c rest ih =>
    by_cases hc : c = '\n'
    · rw [hc, sourceLines_lineFeed, List.flatten_cons, ih]
      rfl
    · obtain ⟨line, lines, hrest, hlines⟩ := exists_sourceLines_cons hc rest
      rw [hrest, List.flatten_cons] at ih
      rw [hlines, List.flatten_cons, List.cons_append, ih]

/-- There is one line more than there are line feeds. -/
theorem length_sourceLines (text : List Char) :
    (sourceLines text).length = text.count '\n' + 1 := by
  induction text with
  | nil => rfl
  | cons c rest ih =>
    by_cases hc : c = '\n'
    · rw [hc, sourceLines_lineFeed, List.length_cons, ih, List.count_cons_self]
    · obtain ⟨line, lines, hrest, hlines⟩ := exists_sourceLines_cons hc rest
      rw [hrest] at ih
      rw [hlines, List.count_cons_of_ne hc, ← ih]
      rfl

/-! ## Cutting a line out -/

/-- A text is **cut** before and behind the line with a number. So many line feeds are before the
line, the last of them right before it. The line has none, but for the one that ends it, and only
the last line is not ended by one. -/
structure CutAround (text : List Char) (number : Nat) (before line after : List Char) : Prop where
  text_eq : text = before ++ line ++ after
  count : before.count '\n' + 1 = number
  begins : before = [] ∨ before.getLast? = some '\n'
  inner : '\n' ∉ line.dropLast
  ends : line.getLast? = some '\n' ∨ after = []

namespace CutAround

/-- Behind a line feed the lines are counted anew. -/
theorem lineFeed (h : CutAround rest n before line after) :
    CutAround ('\n' :: rest) (n + 1) ('\n' :: before) line after where
  text_eq := congrArg ('\n' :: ·) h.text_eq
  count := by rw [List.count_cons_self, h.count]
  begins := by
    right
    rcases h.begins with hnil | hlast
    · rw [hnil]
      rfl
    · rw [List.getLast?_cons, hlast]
      rfl
  inner := h.inner
  ends := h.ends

/-- Another character is put in front of the first line. -/
theorem first (hc : c ≠ '\n') (h : CutAround rest 1 [] line after) :
    CutAround (c :: rest) 1 [] (c :: line) after where
  text_eq := congrArg (c :: ·) h.text_eq
  count := h.count
  begins := .inl rfl
  inner := by
    cases line with
    | nil => simp
    | cons d more =>
      intro hmem
      rcases List.mem_cons.1 hmem with heq | hmem
      · exact hc heq.symm
      · exact h.inner hmem
  ends := by
    rcases h.ends with hlast | hnil
    · left
      rw [List.getLast?_cons, hlast]
      rfl
    · exact .inr hnil

/-- Another character is put before a later line, and belongs to the first one. -/
theorem later (hc : c ≠ '\n') (h : CutAround rest (n + 2) before line after) :
    CutAround (c :: rest) (n + 2) (c :: before) line after where
  text_eq := congrArg (c :: ·) h.text_eq
  count := by rw [List.count_cons_of_ne hc, h.count]
  begins := by
    right
    rcases h.begins with hnil | hlast
    · have hcount := h.count
      rw [hnil, List.count_nil] at hcount
      omega
    · rw [List.getLast?_cons, hlast]
      rfl
  inner := h.inner
  ends := h.ends

end CutAround

/-- The lines before a line, the line itself and the lines behind it **cut** the text. -/
theorem cutAround_sourceLines (h : (sourceLines text)[i]? = some line) :
    CutAround text (i + 1) ((sourceLines text).take i).flatten line
      ((sourceLines text).drop (i + 1)).flatten := by
  -- by the text: a further character is a line of its own or belongs to the first line
  induction text generalizing i line with
  | nil =>
    cases i with
    | zero =>
      cases h
      exact ⟨rfl, rfl, .inl rfl, List.not_mem_nil, .inr rfl⟩
    | succ i => cases h
  | cons c rest ih =>
    by_cases hc : c = '\n'
    · subst hc
      rw [sourceLines_lineFeed] at h ⊢
      cases i with
      | zero =>
        cases h
        exact ⟨congrArg ('\n' :: ·) (flatten_sourceLines rest).symm, rfl, .inl rfl,
          List.not_mem_nil, .inl rfl⟩
      | succ i => exact (ih h).lineFeed
    · obtain ⟨front, lines, hrest, hlines⟩ := exists_sourceLines_cons hc rest
      rw [hlines] at h ⊢
      rw [hrest] at ih
      cases i with
      | zero =>
        cases h
        exact (ih (i := 0) rfl).first hc
      | succ i => exact (ih (i := i + 1) h).later hc

/-! ## Ranges of lines -/

/-- Where the line at an index begins, and the line before it ends. -/
def lineBound (text : List Char) (i : Nat) : Nat :=
  byteLength ((sourceLines text).take i).flatten

/-- The first line begins where the text begins. -/
theorem lineBound_zero (text : List Char) : lineBound text 0 = 0 := rfl

/-- The last line ends where the text does. -/
theorem lineBound_count_add_one (text : List Char) :
    lineBound text (text.count '\n' + 1) = byteLength text := by
  unfold lineBound
  rw [← length_sourceLines, List.take_length, flatten_sourceLines]

/-- A line begins where the one before it ends. -/
theorem lineBound_add_one (h : (sourceLines text)[i]? = some line) :
    lineBound text (i + 1) = lineBound text i + byteLength line := by
  unfold lineBound
  rw [List.take_add_one, h, List.flatten_append, byteLength_append]
  simp

/-- The lines are **adjacent**: each of them ends where the next one begins. -/
theorem lineRange?_of_lt (hi : i < (sourceLines text).length) :
    lineRange? text i = some (lineBound text i, lineBound text (i + 1)) := by
  have hline := List.getElem?_eq_getElem hi
  unfold lineRange?
  dsimp only
  rw [lineBound_add_one hline, hline, Option.map_some]
  rfl

/-- There is no range for a line that is not there. -/
theorem lineRange?_of_ge (hi : (sourceLines text).length ≤ i) : lineRange? text i = none := by
  unfold lineRange?
  dsimp only
  rw [List.getElem?_eq_none hi, Option.map_none]

/-! ## Line tables -/

/-- A **line table** gives the range of bytes of the line of a text at an index, counted from
zero. -/
abbrev LineTable := List Char → Nat → Option (Nat × Nat)

namespace LineTable

/-- Where lines begin **behind the line feeds** of a text that is at an offset itself. -/
def startsFrom (offset : Nat) : List Char → List Nat
  | [] => []
  | c :: rest =>
    if c = '\n' then (offset + c.utf8Size) :: startsFrom (offset + c.utf8Size) rest
    else startsFrom (offset + c.utf8Size) rest

/-- Where the lines of a text begin: at its beginning and behind each line feed. -/
def starts (text : List Char) : List Nat := 0 :: startsFrom 0 text

/-- A table **cuts at line feeds** if a line reaches from its beginning to that of the next line,
and the last line to the end of the text. -/
def CutsAtLineFeeds (table : LineTable) : Prop :=
  ∀ text i, table text i =
    (starts text)[i]?.map fun start => (start, (starts text)[i + 1]?.getD (byteLength text))

/-- As many lines begin behind line feeds as there are line feeds. -/
theorem length_startsFrom (offset : Nat) (text : List Char) :
    (startsFrom offset text).length = text.count '\n' := by
  induction text generalizing offset with
  | nil => rfl
  | cons c rest ih =>
    unfold startsFrom
    by_cases hc : c = '\n'
    · rw [if_pos hc, List.length_cons, ih, hc, List.count_cons_self]
    · rw [if_neg hc, ih, List.count_cons_of_ne hc]

/-- A line begins at its bound, seen from the offset of the text. -/
theorem getElem?_startsFrom (offset : Nat) (hi : i < (sourceLines text).length) :
    (offset :: startsFrom offset text)[i]? = some (offset + lineBound text i) := by
  induction text generalizing offset i with
  | nil =>
    obtain rfl : i = 0 := by simpa [sourceLines] using hi
    rfl
  | cons c rest ih =>
    cases i with
    | zero => rfl
    | succ i =>
      rw [List.getElem?_cons_succ]
      unfold startsFrom lineBound
      by_cases hc : c = '\n'
      · subst hc
        rw [sourceLines_lineFeed] at hi ⊢
        rw [if_pos rfl, ih _ (Nat.lt_of_succ_lt_succ hi), List.take_succ_cons, List.flatten_cons,
          byteLength_append, Nat.add_assoc]
        rfl
      · obtain ⟨line, lines, hrest, hlines⟩ := exists_sourceLines_cons hc rest
        rw [hlines] at hi ⊢
        have hnext := ih (offset + c.utf8Size) (i := i + 1) (by rw [hrest]; exact hi)
        rw [List.getElem?_cons_succ] at hnext
        rw [if_neg hc, hnext, lineBound, hrest, List.take_succ_cons, List.take_succ_cons,
          List.flatten_cons, List.flatten_cons, List.cons_append, Text.byteLength_cons,
          Nat.add_assoc]

/-- The lines of sources are those of a table that **cuts at line feeds**. -/
theorem cutsAtLineFeeds_lineRange? : CutsAtLineFeeds lineRange? := by
  intro text i
  have hlength : (starts text).length = (sourceLines text).length := by
    unfold starts
    rw [List.length_cons, length_startsFrom, length_sourceLines]
  have hstart : ∀ j < (sourceLines text).length, (starts text)[j]? = some (lineBound text j) := by
    intro j hj
    have hj := getElem?_startsFrom 0 hj
    rwa [Nat.zero_add] at hj
  by_cases hi : i < (sourceLines text).length
  · have hnext : (starts text)[i + 1]?.getD (byteLength text) = lineBound text (i + 1) := by
      -- behind the last line there is no further beginning, but the end of the text
      by_cases hnext : i + 1 < (sourceLines text).length
      · rw [hstart _ hnext]
        rfl
      · have hlast : i + 1 = text.count '\n' + 1 := by
          rw [← length_sourceLines]
          omega
        rw [List.getElem?_eq_none (by omega), hlast, lineBound_count_add_one]
        rfl
    rw [hstart _ hi, Option.map_some, hnext]
    exact lineRange?_of_lt hi
  · have hbeyond : (starts text)[i]? = none := List.getElem?_eq_none (by omega)
    rw [hbeyond, Option.map_none]
    exact lineRange?_of_ge (Nat.le_of_not_lt hi)

/-- All tables that cut at line feeds agree. -/
theorem CutsAtLineFeeds.eq_lineRange? {table : LineTable} (h : table.CutsAtLineFeeds) :
    table = lineRange? := by
  funext text i
  rw [h text i, cutsAtLineFeeds_lineRange? text i]

end LineTable

/-! ## Registered sources -/

namespace Sources

variable {s : Sources} {name other : String} {text : String} {file known : SourceFile} {i : Nat}

/-- A name is looked up among the files in order, so one more file is considered last. -/
theorem index?_concat (s : Sources) (file : SourceFile) (name : String) :
    (Sources.mk (s.files ++ [file])).index? name =
      (s.index? name).or (if file.name = name then some s.files.length else none) := by
  unfold index? List.idxOf?
  rw [List.map_append, List.findIdx?_append, List.length_map]
  by_cases hname : file.name = name <;> simp [hname]

/-- A registration gives the index by which its name is known **from then on**. -/
theorem index?_add (s : Sources) (name text : String) :
    (s.add name text).2.index? name = some (s.add name text).1 := by
  unfold add
  cases hindex : s.index? name with
  | some index => exact hindex
  | none =>
    dsimp only
    rw [index?_concat, hindex, if_pos rfl]
    rfl

/-- A name that has a text keeps it. -/
theorem index?_add_of_some (name text : String) (h : s.index? other = some i) :
    (s.add name text).2.index? other = some i := by
  unfold add
  cases s.index? name with
  | some index => exact h
  | none =>
    dsimp only
    rw [index?_concat, h]
    rfl

/-- A name gets no text by the registration of another one. -/
theorem index?_add_of_ne (text : String) (hne : name ≠ other) (h : s.index? other = none) :
    (s.add name text).2.index? other = none := by
  unfold add
  cases s.index? name with
  | some index => exact h
  | none =>
    dsimp only
    rw [index?_concat, h, if_neg hne]
    rfl

/-- Files stay in their places. -/
theorem getElem?_add (name text : String) (h : s.files[i]? = some file) :
    (s.add name text).2.files[i]? = some file := by
  unfold add
  cases s.index? name with
  | some index => exact h
  | none =>
    obtain ⟨hi, -⟩ := List.getElem?_eq_some_iff.1 h
    exact (List.getElem?_append_left hi).trans h

/-- A new name is registered with the text. -/
theorem getElem?_add_of_new (text : String) (h : s.index? name = none) :
    (s.add name text).2.files[(s.add name text).1]? = some ⟨name, text⟩ := by
  unfold add
  rw [h]
  exact List.getElem?_concat_length

/-- Where a locator points to, when its line is looked up in a table. -/
def locateWith (table : LineTable) (s : Sources) (l : Locator) : Option Location := do
  let name ← l.fileName?
  let index ← s.index? name
  match l.span with
  | some (start, stop) => return ⟨index, start, stop⟩
  | none =>
    let file ← s.files[index]?
    match ← l.line with
    | 0 => none
    | line + 1 =>
      let (start, stop) ← table file.text.toList line
      return ⟨index, start, stop⟩

/-- By the ranges of its lines, a source is located in as it is. -/
theorem locateWith_lineRange? (s : Sources) : s.locateWith lineRange? = s.locate? := rfl

/-- A locator of a registered name without a span is located by its line. -/
theorem locate?_eq_some {l : Locator} (location : Location) (hname : l.fileName? = some name)
    (hindex : s.index? name = some i) (hfile : s.files[i]? = some file) (hspan : l.span = none) :
    s.locate? l = some location ↔
      ∃ line < (sourceLines file.text.toList).length, l.line = some (line + 1) ∧
        location = ⟨i, lineBound file.text.toList line, lineBound file.text.toList (line + 1)⟩ := by
  unfold locate?
  rw [hname, hspan]
  simp only [Option.bind_eq_bind, Option.bind_some, hindex, hfile]
  cases hline : l.line with
  | none => simp
  | some line =>
    cases line with
    | zero => simp
    | succ line =>
      by_cases hlt : line < (sourceLines file.text.toList).length
      · simp only [Option.bind_some, lineRange?_of_lt hlt, Option.pure_def, Option.some.injEq]
        constructor
        · rintro rfl
          exact ⟨line, hlt, rfl, rfl⟩
        · rintro ⟨other, -, hother, rfl⟩
          obtain rfl : line = other := Nat.succ.inj hother
          rfl
      · simp only [Option.bind_some, lineRange?_of_ge (Nat.le_of_not_lt hlt), Option.bind_none,
          Option.some.injEq, reduceCtorEq, false_iff]
        rintro ⟨other, hother, heq, -⟩
        exact hlt (Nat.succ.inj heq ▸ hother)

end Sources

namespace Reports

variable {r : Reports} {name : String} {files more : List SourceFile} {file : SourceFile} {i : Nat}

/-- Registers sources one after another. -/
def register (r : Reports) (files : List SourceFile) : Reports :=
  files.foldl (fun r file => (r.addSource file.name file.text).2) r

/-- Files in a row are registered one list after the other. -/
theorem register_append (r : Reports) (files more : List SourceFile) :
    r.register (files ++ more) = (r.register files).register more := List.foldl_append

/-- The file in front is registered first. -/
theorem register_cons (r : Reports) (file : SourceFile) (more : List SourceFile) :
    r.register (file :: more) = (r.addSource file.name file.text).2.register more := rfl

/-- A name that is registered is known by the same index **afterwards**. -/
theorem index?_register (hindex : r.sources.index? name = some i) (more : List SourceFile) :
    (r.register more).sources.index? name = some i := by
  induction more generalizing r with
  | nil => exact hindex
  | cons next more ih => exact ih (Sources.index?_add_of_some _ _ hindex)

/-- A source that is registered has the same text **afterwards**. -/
theorem getElem?_register (hfile : r.sources.files[i]? = some file) (more : List SourceFile) :
    (r.register more).sources.files[i]? = some file := by
  induction more generalizing r with
  | nil => exact hfile
  | cons next more ih => exact ih (Sources.getElem?_add _ _ hfile)

/-- A name gets no text by the registration of others. -/
theorem index?_register_of_notMem (hindex : r.sources.index? name = none)
    (hfiles : ∀ file ∈ files, file.name ≠ name) :
    (r.register files).sources.index? name = none := by
  induction files generalizing r with
  | nil => exact hindex
  | cons next files ih =>
    obtain ⟨hnext, hfiles⟩ := List.forall_mem_cons.1 hfiles
    exact ih (Sources.index?_add_of_ne _ hnext hindex) hfiles

/-- A name is known by one index, which **every** registration of it gives, and has the text of its
**first** registration. -/
theorem exists_index_register (hfirst : files.find? (fun file => file.name = name) = some file) :
    ∃ i, (register {} files).sources.index? name = some i ∧
      (register {} files).sources.files[i]? = some file ∧
      ∀ before again after, files = before ++ again :: after → again.name = name →
        ((register {} before).addSource again.name again.text).1 = i := by
  obtain ⟨hname, before, after, hfiles, hbefore⟩ := List.find?_eq_some_iff_append.1 hfirst
  obtain rfl : file.name = name := of_decide_eq_true hname
  have hnew : (register {} before).sources.index? file.name = none :=
    index?_register_of_notMem rfl fun other hother => by simpa using hbefore other hother
  have hknown : ∀ before again after, files = before ++ again :: after →
      again.name = file.name → (register {} files).sources.index? file.name =
        some ((register {} before).addSource again.name again.text).1 := by
    intro before again after hfiles hagain
    rw [hfiles, register_append, register_cons, ← hagain]
    exact index?_register (Sources.index?_add _ _ _) after
  have hindex := hknown before file after hfiles rfl
  refine ⟨_, hindex, ?_, ?_⟩
  · rw [hfiles, register_append, register_cons]
    exact getElem?_register (Sources.getElem?_add_of_new _ hnew) after
  · intro before again after hfiles hagain
    exact Option.some.inj ((hknown before again after hfiles hagain).symm.trans hindex)

end Reports

namespace Sources

/-- With a table that cuts at line feeds, a line of a registered name is located **exactly** when
the text of the first registration has it. The ranges of the lines are adjacent, from the beginning
of the text to its end, and each of them holds its line with the line feed that ends it. -/
theorem locateWith_line {table : LineTable} (htable : table.CutsAtLineFeeds)
    (files : List SourceFile) {name : String} {file : SourceFile}
    (hfirst : files.find? (fun file => file.name = name) = some file) :
    let locate := (Reports.register {} files).sources.locateWith table
    let text := file.text.toList
    ∃ (id : Nat) (bound : Nat → Nat),
      (∀ before again after, files = before ++ again :: after → again.name = name →
        ((Reports.register {} before).addSource again.name again.text).1 = id) ∧
      bound 0 = 0 ∧ bound (text.count '\n' + 1) = file.text.utf8ByteSize ∧
      ∀ l : Locator, l.fileName? = some name → l.span = none →
        ((locate l).isSome ↔ ∃ n, l.line = some n ∧ 1 ≤ n ∧ n ≤ text.count '\n' + 1) ∧
        ∀ n location, l.line = some n → locate l = some location →
          location = ⟨id, bound (n - 1), bound n⟩ ∧
          ∃ before line after, CutAround text n before line after ∧
            location.start = byteLength before ∧ location.stop = byteLength (before ++ line) := by
  intro locate text
  obtain ⟨id, hindex, hfile, hregistered⟩ := Reports.exists_index_register hfirst
  have hlocate : locate = (Reports.register {} files).sources.locate? := by
    rw [← locateWith_lineRange?, ← htable.eq_lineRange?]
  have hend : lineBound text (text.count '\n' + 1) = file.text.utf8ByteSize := by
    rw [lineBound_count_add_one, Text.byteLength_eq_utf8Len, String.utf8Len_toList]
  refine ⟨id, lineBound text, hregistered, lineBound_zero text, hend, ?_⟩
  intro l hname hspan
  -- what a locator with a line leads to is told by the registered text alone
  have hline := fun location => locate?_eq_some location hname hindex hfile hspan
  rw [hlocate]
  constructor
  · rw [Option.isSome_iff_exists, ← length_sourceLines]
    constructor
    · rintro ⟨location, hlocated⟩
      obtain ⟨line, hlt, hn, -⟩ := (hline location).1 hlocated
      exact ⟨line + 1, hn, Nat.le_add_left 1 line, hlt⟩
    · rintro ⟨n, hn, hpos, hle⟩
      obtain ⟨line, rfl⟩ := Nat.exists_eq_add_one.2 hpos
      exact ⟨_, (hline _).2 ⟨line, hle, hn, rfl⟩⟩
  · intro n location hn hlocated
    obtain ⟨line, hlt, hsucc, rfl⟩ := (hline location).1 hlocated
    obtain rfl : n = line + 1 := Option.some.inj (hn.symm.trans hsucc)
    have hget := List.getElem?_eq_getElem hlt
    refine ⟨rfl, _, _, _, cutAround_sourceLines hget, rfl, ?_⟩
    rw [byteLength_append]
    exact lineBound_add_one hget

/-- Three registrations, the last of a name that has a text by then. -/
def twiceRegistered : List SourceFile :=
  [⟨"a.xsd", "é\n\nb\n"⟩, ⟨"b.xsd", "x"⟩, ⟨"a.xsd", "y"⟩]

/-- The last line of a text of six bytes is behind its third line feed. -/
theorem locateWith_line_twiceRegistered :
    LineTable.CutsAtLineFeeds lineRange? ∧
      twiceRegistered.find? (fun file => file.name = "a.xsd") =
        some ⟨"a.xsd", "é\n\nb\n"⟩ ∧
      (∃ start, (Reports.register {} twiceRegistered).sources.locate? (.atLine "a.xsd" 4) =
        some ⟨0, start, 6⟩) ∧
      (Reports.register {} twiceRegistered).sources.locate? (.atLine "a.xsd" 5) = none := by
  have hfirst : twiceRegistered.find? (fun file => file.name = "a.xsd") =
      some ⟨"a.xsd", "é\n\nb\n"⟩ := by decide
  obtain ⟨id, bound, hid, -, hend, hlines⟩ :=
    locateWith_line LineTable.cutsAtLineFeeds_lineRange? twiceRegistered hfirst
  have hline := fun n => hlines (.atLine "a.xsd" n) rfl rfl
  refine ⟨LineTable.cutsAtLineFeeds_lineRange?, hfirst, ?_, ?_⟩
  · obtain ⟨location, hlocated⟩ := Option.isSome_iff_exists.1
      ((hline 4).1.2 ⟨4, rfl, by decide, by decide⟩)
    obtain ⟨rfl, -⟩ := (hline 4).2 4 location rfl hlocated
    obtain rfl : 0 = id := hid [] _ _ rfl rfl
    have hstop : bound 4 = 6 := hend
    exact ⟨bound 3, hstop ▸ hlocated⟩
  · rw [← Option.not_isSome_iff_eq_none]
    intro hsome
    obtain ⟨n, hn, -, hle⟩ := (hline 5).1.1 hsome
    obtain rfl : 5 = n := Option.some.inj hn
    exact absurd hle (by decide)

end Sources

end SchemaBinding
