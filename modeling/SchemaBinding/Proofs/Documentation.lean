import SchemaBinding.Proofs.SharedClass

/-! # Documentation and its excerpts
The documentation of a class ends with an excerpt of the schema, whose markup is escaped. The
excerpt is free of markup characters, and it gives back the fragment: an ampersand in it always
starts an entity, because the ampersands of the fragment are escaped as well. A run writes the
documentation of a class once, when its body is begun. -/

namespace SchemaBinding

open Resolver (State)

/-! ## Entities -/

namespace Text

variable {c : Char} {rest text : List Char}

/-- A text whose entities are **undone**, each once. -/
def unescaped : List Char → List Char
  | '&' :: 'a' :: 'm' :: 'p' :: ';' :: rest => '&' :: unescaped rest
  | '&' :: 'l' :: 't' :: ';' :: rest => '<' :: unescaped rest
  | '&' :: 'g' :: 't' :: ';' :: rest => '>' :: unescaped rest
  | c :: rest => c :: unescaped rest
  | [] => []

/-- Characters that start no entity stand for themselves. -/
theorem unescaped_cons (hc : c ≠ '&') : unescaped (c :: rest) = c :: unescaped rest := by
  rw [unescaped]
  all_goals
    rintro _ ⟨⟩
    exact fun _ => hc rfl

/-- An escaped character is read back as itself, and what follows it is left to be read. -/
theorem unescaped_escapedChar (c : Char) (rest : List Char) :
    unescaped (escapedChar c ++ rest) = c :: unescaped rest := by
  by_cases hand : c = '&'
  · subst hand
    rfl
  · by_cases hless : c = '<'
    · subst hless
      rfl
    · by_cases hgreater : c = '>'
      · subst hgreater
        rfl
      · rw [escapedChar, if_neg hand, if_neg hless, if_neg hgreater]
        exact unescaped_cons hand

/-- To undo the entities of an escaped text gives it **back**. -/
theorem unescaped_escaped (text : List Char) : unescaped (escaped text) = text := by
  induction text with
  | nil => rfl
  | cons c text ih => rw [escaped_cons, unescaped_escapedChar, ih]

/-- The ampersands of a text do not mix with those of its entities. -/
example : unescaped (escaped "a<b &lt; &amp;".toList) = "a<b &lt; &amp;".toList := by decide

/-- No **markup character** is left in an escaped text. -/
theorem ne_of_mem_escaped (h : c ∈ escaped text) : c ≠ '<' ∧ c ≠ '>' := by
  obtain ⟨d, -, hd⟩ := List.mem_flatMap.1 h
  have hunmarked : ((escapedChar d).all fun c => c != '<' && c != '>') = true := by
    unfold escapedChar
    by_cases hand : d = '&'
    · rw [if_pos hand]
      rfl
    · by_cases hless : d = '<'
      · rw [if_neg hand, if_pos hless]
        rfl
      · by_cases hgreater : d = '>'
        · rw [if_neg hand, if_neg hless, if_pos hgreater]
          rfl
        · simp [hand, hless, hgreater]
  simpa using List.all_eq_true.1 hunmarked c hd

end Text

/-! ## Documented classes -/

/-- A text **documents** a declaration: by the customized documentation, by where it stands, and by
an excerpt without markup from which its fragment can be recovered. -/
structure SchemaSet.Documents (set : SchemaSet) (d : ComponentId) (fragment excerpt text : String) :
    Prop where
  written : set.fragment? d = some fragment
  paragraphs : text = String.intercalate "\n\n"
    ((set.component d).custom.documentation.toList ++
      ["Generated from " ++ set.label d ++ " in " ++
          (((set.component d).locator.bind Locator.fileName?).getD "") ++ ", line " ++
          ((((set.component d).locator.bind Locator.line).map toString).getD "unknown") ++ ".",
        "<pre>\n" ++ excerpt ++ "</pre>"])
  escaped : excerpt = String.ofList (Text.escaped fragment.toList)
  unmarked : ∀ c ∈ excerpt.toList, c ≠ '<' ∧ c ≠ '>'
  recovered : String.ofList (Text.unescaped excerpt.toList) = fragment

namespace SchemaSet

variable {set : SchemaSet} {d : ComponentId} {paragraphs : List String}

/-- A line that is not known is called so. -/
theorem originText_eq (set : SchemaSet) (d : ComponentId) :
    set.originText d = "Generated from " ++ set.label d ++ " in " ++
      (((set.component d).locator.bind Locator.fileName?).getD "") ++ ", line " ++
      ((((set.component d).locator.bind Locator.line).map toString).getD "unknown") ++ "." := by
  unfold originText
  dsimp only
  cases (set.component d).locator.bind Locator.line with
  | none => rfl
  | some line => rfl

/-- The standard documentation documents its declaration. -/
theorem exists_documents (h : set.documentation? d = some paragraphs) :
    ∃ fragment excerpt,
      set.Documents d fragment excerpt (String.intercalate "\n\n" paragraphs) := by
  obtain ⟨fragment, hfragment, rfl⟩ := Option.map_eq_some_iff.1 h
  refine ⟨fragment, String.ofList (Text.escaped fragment.toList), hfragment, ?_, rfl, ?_, ?_⟩
  · rw [originText_eq, excerptText]
  · intro c hc
    rw [String.toList_ofList] at hc
    exact Text.ne_of_mem_escaped hc
  · rw [String.toList_ofList, Text.unescaped_escaped, String.ofList_toList]

end SchemaSet

namespace Compilation

variable {c : Compilation} {s : State}

/-- **The documentation of classes.** When a standard run with documentation has come to its end,
every class was begun for a component. Whatever others have the same class, its body was begun and
finished for this one alone, and the documentation is exactly what documents it. -/
theorem documents_of_run (hstandard : c.strategy = .standard)
    (hdocs : c.config.generateDocs = true) (hrun : c.run = (.ok (), s)) :
    (∀ k ∈ s.model.classIds, ∃ d, Mark.begun d k ∈ s.ledger.log) ∧
      ∀ d k, Mark.begun d k ∈ s.ledger.log →
        s.registry.target? d = some (.classRef k) ∧
          s.ledger.marks k = [.done d k, .begun d k] ∧
          ∃ fragment excerpt text, (s.model.classInfo k).doc = some text ∧
            c.schema.Documents d fragment excerpt text := by
  have hfinished := finished_of_run hstandard hrun
  refine ⟨fun k hk => ?_, fun d k hbegun => ?_⟩
  · obtain ⟨i, hi, rfl⟩ := List.mem_map.1 hk
    obtain ⟨d, -, hmarks⟩ := hfinished.exists_marks (hfinished.mem_built (List.mem_range.1 hi))
    have hbegun : Mark.begun d ⟨i⟩ ∈ s.ledger.marks ⟨i⟩ := by simp [hmarks]
    exact ⟨d, (Ledger.mem_marks.1 hbegun).1⟩
  · obtain ⟨-, htarget, hbody⟩ := hfinished.reachable.building.of_begun hbegun
    have hmarks : s.ledger.marks k = [.done d k, .begun d k] := by
      cases hbody with
      | active active =>
        -- no body is under construction any more
        rw [hfinished.building] at active
        cases active
      | done _ marks => exact marks
    obtain ⟨paragraphs, hparagraphs, hdoc⟩ := hfinished.exists_documentation? hbegun hdocs
    obtain ⟨fragment, excerpt, hdocuments⟩ := SchemaSet.exists_documents hparagraphs
    exact ⟨htarget, hmarks, fragment, excerpt, _, hdoc, hdocuments⟩

/-- A class for an element and its anonymous type, with names that hold markup. -/
def markup : Compilation where
  schema := (Builder.derive ⟨25⟩ ⟨23⟩ .extension).after <|
    (Builder.globalComplexType "urn:x" "T").after <|
      (Builder.localElement ⟨23⟩ "a<b>&lt;" (some ⟨2⟩)).after <|
        (Builder.documentation ⟨23⟩ "About it").after <|
          (Builder.setLocator ⟨23⟩ (.atLine "x.xsd" 7)).after <|
            (Builder.anonymousComplexType ⟨22⟩).after <|
              (Builder.globalElement "urn:x" "e" none).after .initial

/-- The class is bound to both, and documented for the type alone. -/
theorem documents_of_run_markup :
    markup.run.2.registry.target? ⟨22⟩ = some (.classRef ⟨0⟩) ∧
      markup.run.2.registry.target? ⟨23⟩ = some (.classRef ⟨0⟩) ∧
      markup.run.2.ledger.marks ⟨0⟩ = [.done ⟨23⟩ ⟨0⟩, .begun ⟨23⟩ ⟨0⟩] ∧
      ∃ fragment excerpt text, (markup.run.2.model.classInfo ⟨0⟩).doc = some text ∧
        markup.schema.Documents ⟨23⟩ fragment excerpt text := by
  have hrun : markup.run = (.ok (), markup.run.2) := run_of_fst (by decide +kernel)
  have hbegun : Mark.begun ⟨23⟩ ⟨0⟩ ∈ markup.run.2.ledger.log := by decide +kernel
  exact ⟨by decide +kernel, (documents_of_run rfl rfl hrun).2 _ _ hbegun⟩

end Compilation

end SchemaBinding
