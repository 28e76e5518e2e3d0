import SchemaBinding.Proofs.Completion
import SchemaBinding.Proofs.Cutting
import SchemaBinding.Proofs.Naming.Words

/-! # Which package names are valid
A part of a namespace is lower-cased and made into a segment by putting `_` in place of every
character that is neither letter nor number. That repairs what other characters do to an identifier.
But some letters and numbers may not stand in an identifier, and these are kept: `²` is a number,
`Ⓐ` a letter. So the package name for a namespace is valid exactly if no such character is left in a
part, as is the case in ASCII. -/

namespace SchemaBinding.Naming

open SchemaBinding.Text

variable {text : List Char} {c : Char}

/-! ## Segments -/

/-- The character of a segment that a character of a part becomes. -/
def segmentChar (c : Char) : Char := if isAlphanumeric c || c == '_' then c else '_'

/-- A segment is the lower-cased part with its characters replaced, made usable. -/
theorem packageSegment_eq (part : List Char) :
    packageSegment part = (usable ((lowercase part).map segmentChar)).toList := by
  rw [usable, String.toList_ofList]
  rfl

/-- Letters and numbers stay in a segment. -/
theorem segmentChar_of_isAlphanumeric (h : isAlphanumeric c = true) : segmentChar c = c := by
  simp [segmentChar, h]

/-- All other characters become `_`. -/
theorem segmentChar_of_not (h : ¬ isAlphanumeric c = true) : segmentChar c = '_' := by
  simp [segmentChar, h]

/-- A lower-cased part is **nameable** when its letters and numbers may stand where they do in an
identifier, a number in front being led by `_`. -/
def Nameable : List Char → Prop
  | [] => False
  | first :: rest =>
    (isAlphanumeric first = true →
      (if isNumeric first then isIdentifierContinue first else isIdentifierStart first) = true) ∧
      ∀ c ∈ rest, isAlphanumeric c = true → isIdentifierContinue c = true

/-- A character of a segment may follow in an identifier unless it comes from a letter or number
that may not. -/
theorem follows_segmentChar_iff :
    follows (segmentChar c) = true ↔ (isAlphanumeric c = true → isIdentifierContinue c = true) := by
  by_cases hc : isAlphanumeric c = true
  · have hdollar : c ≠ '$' := by rintro rfl; cases hc
    simp [segmentChar_of_isAlphanumeric, follows, hc, hdollar]
  · simp [segmentChar_of_not, hc, show follows '_' = true from rfl]

/-- A character of a segment may start an identifier unless it comes from a letter or number that
may not. -/
theorem opens_segmentChar_iff :
    opens (segmentChar c) = true ↔ (isAlphanumeric c = true → isIdentifierStart c = true) := by
  by_cases hc : isAlphanumeric c = true
  · have hdollar : c ≠ '$' := by rintro rfl; cases hc
    have hscore : c ≠ '_' := by rintro rfl; cases hc
    simp [segmentChar_of_isAlphanumeric, opens, hc, hdollar, hscore]
  · simp [segmentChar_of_not, hc, show opens '_' = true from rfl]

/-- Replacing characters makes a name sound exactly if the part is nameable. -/
theorem sound_map_segmentChar_iff : Sound (text.map segmentChar) ↔ Nameable text := by
  cases text with
  | nil => rfl
  | cons first rest =>
    simp only [List.map_cons, Sound, Nameable, List.forall_mem_map, follows_segmentChar_iff]
    refine and_congr_left fun _ => ?_
    by_cases hc : isAlphanumeric first = true
    · have hfollows := follows_segmentChar_iff (c := first)
      have hopens := opens_segmentChar_iff (c := first)
      rw [segmentChar_of_isAlphanumeric hc] at hfollows hopens ⊢
      split
      · exact hfollows
      · exact hopens
    · rw [segmentChar_of_not hc]
      simp [hc, show isNumeric '_' = false from rfl, show opens '_' = true from rfl]

/-- A segment is an **identifier** exactly if the lower-cased part is nameable. -/
theorem isIdentifier_packageSegment_iff (part : List Char) :
    isIdentifier (String.ofList (packageSegment part)) = true ↔ Nameable (lowercase part) := by
  rw [packageSegment_eq, String.ofList_toList, isIdentifier_usable_iff, sound_map_segmentChar_iff]

/-! ## Dots -/

/-- What makes a name usable adds no character but `_`. -/
theorem mem_usable {name : List Char} (h : c ∈ (usable name).toList) : c ∈ name ∨ c = '_' := by
  have hreserved {name : List Char} (h : c ∈ guardReserved name) : c ∈ name ∨ c = '_' := by
    unfold guardReserved at h
    split at h
    · simpa using h
    · exact .inl h
  rw [usable, String.toList_ofList] at h
  rcases hreserved h with h | rfl
  · cases name with
    | nil => exact .inl h
    | cons first rest =>
      unfold guardNumber at h
      dsimp only at h
      split at h
      · exact (List.mem_cons.1 h).symm
      · exact .inl h
  · exact .inr rfl

/-- A segment holds **no dot**. -/
theorem dot_notMem_packageSegment (part : List Char) : '.' ∉ packageSegment part := by
  intro h
  rw [packageSegment_eq] at h
  rcases mem_usable h with h | h
  · obtain ⟨c, -, hc⟩ := List.mem_map.1 h
    by_cases halphanumeric : isAlphanumeric c = true
    · rw [segmentChar_of_isAlphanumeric halphanumeric] at hc
      subst hc
      cases halphanumeric
    · rw [segmentChar_of_not halphanumeric] at hc
      cases hc
  · cases h

/-- A name is a package name when all that stands between its dots are identifiers. The empty name
is none already for that reason. -/
theorem isPackageName_iff (name : String) :
    isPackageName name = true ↔
      ∀ segment ∈ splitOn '.' name.toList, isIdentifier (String.ofList segment) = true := by
  unfold isPackageName
  rw [Bool.and_eq_true, List.all_eq_true, and_iff_right_iff_imp]
  intro h
  by_cases hempty : name = ""
  · have := h [] (by simp [hempty, splitOn])
    cases this
  · simpa using hempty

/-- Dotted segments are a package name exactly if **each** of them is an identifier. -/
theorem isPackageName_intercalate_iff {segments : List (List Char)} (hne : segments ≠ [])
    (hdot : ∀ segment ∈ segments, '.' ∉ segment) :
    isPackageName (String.intercalate "." (segments.map String.ofList)) = true ↔
      ∀ segment ∈ segments, isIdentifier (String.ofList segment) = true := by
  have hsegments : (segments.map String.ofList).map String.toList = segments := by simp
  have hseparator : ".".toList = ['.'] := rfl
  rw [isPackageName_iff, String.toList_intercalate, hsegments, hseparator,
    splitOn_intercalate hne hdot]

/-! ## ASCII -/

/-- The parts of a text hold characters of the text alone. -/
theorem mem_of_mem_parts {sep : Char} {part : List Char} (h : part ∈ parts sep text)
    (hc : c ∈ part) : c ∈ text :=
  mem_of_mem_splitOn (List.mem_filter.1 h).1 hc

/-- Cutting off an extension adds no character. -/
theorem mem_of_mem_withoutExtension {name : List Char} (hc : c ∈ withoutExtension name) :
    c ∈ name := by
  unfold withoutExtension at hc
  split at hc
  · rename_i stem extension hcut
    split at hc
    · rw [eq_append_of_cutAtLast hcut]
      exact List.mem_append_left _ hc
    · exact hc
  · exact hc

/-- What a list holds after its last entry was changed is of the list, or comes from its last
entry. -/
theorem mem_of_mem_mapLast {α : Type} {f : α → α} {xs : List α} {x : α} (h : x ∈ mapLast f xs) :
    x ∈ xs ∨ ∃ last ∈ xs, x = f last := by
  induction xs using mapLast.induct with
  | case1 => cases h
  | case2 last =>
    obtain rfl : x = f last := by simpa [mapLast] using h
    exact .inr ⟨last, List.mem_cons_self, rfl⟩
  | case3 first second rest ih =>
    unfold mapLast at h
    rcases List.mem_cons.1 h with rfl | h
    · exact .inl List.mem_cons_self
    · rcases ih h with h | ⟨last, hlast, rfl⟩
      · exact .inl (List.mem_cons_of_mem first h)
      · exact .inr ⟨last, List.mem_cons_of_mem first hlast, rfl⟩

/-- The parts of a path hold characters of the path alone. -/
theorem mem_of_mem_pathParts {part : List Char} (h : part ∈ pathParts text) (hc : c ∈ part) :
    c ∈ text := by
  rcases mem_of_mem_mapLast h with h | ⟨last, hlast, rfl⟩
  · exact mem_of_mem_parts h hc
  · exact mem_of_mem_parts hlast (mem_of_mem_withoutExtension hc)

/-- The host in front of a port. -/
def host (authority : List Char) : List Char :=
  ((cutAt ':' authority).map Prod.fst).getD authority

/-- A host holds characters of the authority alone. -/
theorem mem_of_mem_host {authority : List Char} (hc : c ∈ host authority) : c ∈ authority := by
  unfold host at hc
  cases hcut : cutAt ':' authority with
  | none => simpa [hcut] using hc
  | some cut =>
    rw [(cutAt_eq_some.1 hcut).2]
    exact List.mem_append_left _ (by simpa [hcut] using hc)

/-- Without a leading `www` no label is left that was not there. -/
theorem mem_of_mem_withoutWww {labels : List (List Char)} {part : List Char}
    (h : part ∈ match labels with
      | first :: rest => if first = ['w', 'w', 'w'] then rest else first :: rest
      | [] => []) : part ∈ labels := by
  split at h
  · split at h
    · exact List.mem_cons_of_mem _ h
    · exact h
  · exact h

/-- The parts of a host are what stands between its dots. -/
theorem mem_parts_of_mem_hostParts {authority part : List Char} (h : part ∈ hostParts authority) :
    part ∈ parts '.' (host authority) := by
  unfold hostParts at h
  rw [List.mem_reverse] at h
  unfold host
  cases hcut : cutAt ':' authority with
  | none =>
    rw [hcut] at h
    exact mem_of_mem_withoutWww h
  | some cut =>
    rw [hcut] at h
    exact mem_of_mem_withoutWww h

/-- They hold characters of the authority alone. -/
theorem mem_of_mem_hostParts {part : List Char} (h : part ∈ hostParts text) (hc : c ∈ part) :
    c ∈ text :=
  mem_of_mem_host (mem_of_mem_parts (mem_parts_of_mem_hostParts h) hc)

/-- What stands behind the scheme of a URL. -/
def withoutScheme (ns : List Char) : List Char := (afterFirst [':', '/', '/'] ns).getD ns

/-- Cutting off a scheme adds no character. -/
theorem mem_of_mem_withoutScheme {ns : List Char} (hc : c ∈ withoutScheme ns) : c ∈ ns := by
  unfold withoutScheme at hc
  cases hrest : afterFirst [':', '/', '/'] ns with
  | none => simpa [hrest] using hc
  | some rest =>
    obtain ⟨before, hns⟩ := eq_append_of_afterFirst hrest
    rw [hns]
    simp [show c ∈ rest by simpa [hrest] using hc]

/-- The parts of a namespace that is no URN are those of its host, and then those of its path. -/
theorem namespaceParts_of_url {ns : List Char} (h : afterStart ['u', 'r', 'n', ':'] ns = none) :
    namespaceParts ns =
      match cutAt '/' (withoutScheme ns) with
      | some (authority, path) => hostParts authority ++ pathParts path
      | none => hostParts (withoutScheme ns) := by
  unfold namespaceParts withoutScheme
  rw [h]
  cases hscheme : afterFirst [':', '/', '/'] ns with
  | none => cases hcut : cutAt '/' ns <;> simp [hcut, pathParts, parts, splitOn, mapLast]
  | some rest => cases hcut : cutAt '/' rest <;> simp [hcut, pathParts, parts, splitOn, mapLast]

/-- The parts of a namespace hold characters of the **namespace** alone. -/
theorem mem_of_mem_namespaceParts {ns part : List Char} (h : part ∈ namespaceParts ns)
    (hc : c ∈ part) : c ∈ ns := by
  cases hurn : afterStart ['u', 'r', 'n', ':'] ns with
  | some rest =>
    rw [afterStart_eq_some.1 hurn]
    have hpiece : part ∈ splitOn ':' rest := by simpa only [namespaceParts, hurn] using h
    exact List.mem_append_right _ (mem_of_mem_splitOn hpiece hc)
  | none =>
    rw [namespaceParts_of_url hurn] at h
    apply mem_of_mem_withoutScheme
    split at h
    · rename_i authority path hcut
      rw [(cutAt_eq_some.1 hcut).2]
      rcases List.mem_append.1 h with h | h
      · exact List.mem_append_left _ (mem_of_mem_hostParts h hc)
      · exact List.mem_append_right _ (List.mem_cons_of_mem _ (mem_of_mem_pathParts h hc))
    · exact mem_of_mem_hostParts h hc

/-- Lower-casing ASCII characters does not depend on what stands before them. -/
theorem lowerAfter_ascii (before : List Char) (h : ∀ c ∈ text, c.toNat < 0x80) :
    lowerAfter before text = text.map Char.toLower := by
  induction text generalizing before with
  | nil => rfl
  | cons c rest ih =>
    have hc : c.toNat < 0x80 := h c List.mem_cons_self
    have hsigma : c ≠ 'Σ' := by rintro rfl; exact absurd hc (by decide)
    unfold lowerAfter
    rw [ih (c :: before) fun d hd => h d (List.mem_cons_of_mem c hd)]
    simp [hsigma, lower, hc]

/-- Lower-casing an ASCII text lower-cases each of its characters. -/
theorem lowercase_ascii (h : ∀ c ∈ text, c.toNat < 0x80) : lowercase text = text.map Char.toLower :=
  lowerAfter_ascii [] h

/-- What passes for a letter or number in ASCII may stand in an identifier. -/
theorem nameable_of_ascii (hne : text ≠ []) (h : ∀ c ∈ text, c.toNat < 0x80) : Nameable text := by
  obtain ⟨first, rest, rfl⟩ := List.exists_cons_of_ne_nil hne
  refine ⟨?_, fun c hc => ?_⟩
  · exact of_ascii (P := fun c => isAlphanumeric c = true →
      (if isNumeric c then isIdentifierContinue c else isIdentifierStart c) = true)
      (by decide) (h first List.mem_cons_self)
  · exact of_ascii (P := fun c => isAlphanumeric c = true → isIdentifierContinue c = true)
      (by decide) (h c (List.mem_cons_of_mem first hc))

/-! ## Package names -/

/-- A package name is the segments of the parts that are not empty, joined by dots; there is at
least one. -/
theorem packageName_eq_some {ns name : String} (h : packageName ns = some name) :
    ∃ segments, segments ≠ [] ∧
      segments = ((namespaceParts ns.toList).filter fun part => !part.isEmpty).map packageSegment ∧
      name = String.intercalate "." (segments.map String.ofList) := by
  unfold packageName at h
  split at h
  · cases h
  · rename_i parts hne
    refine ⟨_, ?_, rfl, ?_⟩
    · simpa using hne
    · rw [List.map_map]
      exact (Option.some.inj h).symm

/-- **Validity of a package name that is derived.** It is a package name exactly if every part of
the namespace is nameable in lower case; and so it is whenever the namespace is ASCII. -/
theorem isPackageName_of_packageName {ns name : String} (h : packageName ns = some name) :
    (isPackageName name = true ↔
      ∀ part ∈ namespaceParts ns.toList, part ≠ [] → Nameable (lowercase part)) ∧
      ((∀ c ∈ ns.toList, c.toNat < 0x80) → isPackageName name = true) := by
  obtain ⟨segments, hne, hsegments, rfl⟩ := packageName_eq_some h
  have hdot : ∀ segment ∈ segments, '.' ∉ segment := by
    intro segment hsegment
    obtain ⟨part, -, rfl⟩ := List.mem_map.1 (hsegments ▸ hsegment)
    exact dot_notMem_packageSegment part
  have hvalid : isPackageName (String.intercalate "." (segments.map String.ofList)) = true ↔
      ∀ part ∈ namespaceParts ns.toList, part ≠ [] → Nameable (lowercase part) := by
    rw [isPackageName_intercalate_iff hne hdot, hsegments, List.forall_mem_map]
    simp [isIdentifier_packageSegment_iff]
  refine ⟨hvalid, fun hascii => hvalid.2 fun part hpart hpartNe => ?_⟩
  have hpartAscii : ∀ c ∈ part, c.toNat < 0x80 :=
    fun c hc => hascii c (mem_of_mem_namespaceParts hpart hc)
  rw [lowercase_ascii hpartAscii]
  refine nameable_of_ascii (by simpa using hpartNe) fun c hc => ?_
  obtain ⟨d, hd, rfl⟩ := List.mem_map.1 hc
  exact of_ascii (P := fun c => c.toLower.toNat < 0x80) (by decide) (hpartAscii d hd)

/-- A host with a port, and a path with a number, a hyphen and an extension. -/
theorem isPackageName_of_packageName_url :
    packageName "http://www.Example.com:80/2024/order-v1.xsd" =
        some "com.example._2024.order_v1" ∧
      (isPackageName "com.example._2024.order_v1" = true ↔
        ∀ part ∈ namespaceParts "http://www.Example.com:80/2024/order-v1.xsd".toList,
          part ≠ [] → Nameable (lowercase part)) ∧
      ((∀ c ∈ "http://www.Example.com:80/2024/order-v1.xsd".toList, c.toNat < 0x80) →
        isPackageName "com.example._2024.order_v1" = true) :=
  have hname : packageName "http://www.Example.com:80/2024/order-v1.xsd" =
      some "com.example._2024.order_v1" := by decide +kernel
  ⟨hname, isPackageName_of_packageName hname⟩

/-- A complex type in a namespace with a number that may not stand in an identifier. -/
def superscript : Compilation where
  schema := (Builder.globalComplexType "urn:a²" "T").after .initial

/-- The run for that type comes to its end. -/
theorem run_superscript : superscript.run = (.ok (), superscript.run.2) :=
  Compilation.run_of_fst (by decide +kernel)

/-- **A package name that is derived and not valid**: the number is kept, and the name that no one
chose is reported. -/
theorem exists_derived_incorrectPackageName :
    (∃ ns name, packageName ns = some name ∧ isPackageName name = false) ∧
      superscript.config = {} ∧ superscript.naming = .standard ∧
      superscript.run = (.ok (), superscript.run.2) ∧
      superscript.run.2.reports.withKey Finding.incorrectPackageNameKey =
        [(Finding.incorrectPackageName "a²" "urn:a²" none).diagnostic {}] :=
  ⟨⟨"urn:a²", "a²", by decide +kernel, by decide +kernel⟩, rfl, rfl, run_superscript,
    by decide +kernel⟩

end SchemaBinding.Naming
