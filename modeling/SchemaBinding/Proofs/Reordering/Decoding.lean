import Mathlib.Data.List.Forall2
import Mathlib.Data.List.Perm.Basic
import SchemaBinding.Toml.Decode

/-! # Decoding in another order
A document may be decoded from values that differ in their order. Items that are decoded one by one
give the same results in another order. The fields of a record may be read in any order, as each
sets a part of the record of its own. -/

namespace SchemaBinding.Toml

variable {α β γ δ : Type} {R : α → β → Prop} {r : Except DecodeError α} {r' : Except DecodeError β}
  {r'' : Except DecodeError γ}

/-! ## Agreement -/

/-- Results **agree** when both are errors, or both are there and related. -/
inductive Agree (R : α → β → Prop) : Except DecodeError α → Except DecodeError β → Prop
  | ok {a : α} {b : β} (related : R a b) : Agree R (.ok a) (.ok b)
  | error {e e' : DecodeError} : Agree R (.error e) (.error e')

namespace Agree

/-- A result agrees with itself. -/
theorem of_eq (r : Except DecodeError α) : Agree Eq r r := by
  cases r with
  | ok a => exact .ok rfl
  | error e => exact .error

/-- Results that are the same up to their errors may change places. -/
theorem symm {r' : Except DecodeError α} (h : Agree Eq r r') : Agree Eq r' r := by
  cases h with
  | ok related => exact .ok related.symm
  | error => exact .error

/-- What agrees with a third result agrees through it. -/
theorem trans {S : β → γ → Prop} {T : α → γ → Prop} (h : Agree R r r') (h' : Agree S r' r'')
    (htrans : ∀ a b c, R a b → S b c → T a c) : Agree T r r'' := by
  cases h with
  | ok related =>
    cases h' with
    | ok related' => exact .ok (htrans _ _ _ related related')
  | error =>
    cases h' with
    | error => exact .error

/-- Steps in a row agree if those that follow agree on related values. -/
theorem bind {S : γ → δ → Prop} {f : α → Except DecodeError γ} {g : β → Except DecodeError δ}
    (h : Agree R r r') (hnext : ∀ a b, R a b → Agree S (f a) (g b)) :
    Agree S (r >>= f) (r' >>= g) := by
  cases h with
  | ok related => exact hnext _ _ related
  | error => exact .error

/-- Related values may be rewritten to related ones. -/
theorem map {S : γ → δ → Prop} {f : α → γ} {g : β → δ} (h : Agree R r r')
    (hmap : ∀ a b, R a b → S (f a) (g b)) : Agree S (r.map f) (r'.map g) := by
  cases h with
  | ok related => exact .ok (hmap _ _ related)
  | error => exact .error

end Agree

/-! ## Items one by one -/

/-- Related items are decoded to related results. -/
theorem agree_mapM {Q : Value → Value → Prop} {f : Decoder α} {g : Decoder β}
    {items items' : List Value} (hitems : List.Forall₂ Q items items')
    (hdecode : ∀ v w, Q v w → Agree R (f v) (g w)) :
    Agree (List.Forall₂ R) (items.mapM f) (items'.mapM g) := by
  induction hitems with
  | nil => exact .ok .nil
  | cons hitem _ ih =>
    rw [List.mapM_cons, List.mapM_cons]
    exact (hdecode _ _ hitem).bind fun a b hab => ih.bind fun as bs hrest => .ok (.cons hab hrest)

/-- Items in another order are decoded to results **in another order**. -/
theorem agree_mapM_perm (f : Decoder α) {items items' : List Value} (hperm : items.Perm items') :
    Agree List.Perm (items.mapM f) (items'.mapM f) := by
  induction hperm with
  | nil => exact .ok .nil
  | cons v _ ih =>
    rw [List.mapM_cons, List.mapM_cons]
    refine (Agree.of_eq (f v)).bind ?_
    rintro a _ rfl
    exact ih.bind fun as bs hrest => .ok (hrest.cons a)
  | swap v w rest =>
    simp only [List.mapM_cons]
    cases f v <;> cases f w <;> cases rest.mapM f <;>
      first | exact .error | exact .ok (.swap ..)
  | trans _ _ ih ih' => exact ih.trans ih' fun _ _ _ => List.Perm.trans

/-! ## Fields in another order -/

variable {σ : Type} {fields : List (Field σ)} {entries entries' : Entries} {record record' : σ}

/-- Fields **commute** when it does not matter which of them is read first. -/
def Field.Commutes (f g : Field σ) : Prop :=
  ∀ v w record, Agree Eq (f.read v record >>= g.read w) (g.read w record >>= f.read v)

/-- Fields that set different parts of a record commute. -/
theorem Field.commutes_of {name name' : String} {absence absence' : Absence} {decode : Decoder α}
    {decode' : Decoder β} {put : α → σ → σ} {put' : β → σ → σ}
    (hput : ∀ a b record, put' b (put a record) = put a (put' b record)) :
    (Field.of name absence decode put).Commutes (Field.of name' absence' decode' put') := by
  intro v w record
  unfold Field.of
  dsimp only
  cases decode v with
  | error e => cases decode' w <;> exact .error
  | ok a =>
    cases decode' w with
    | error e => exact .error
    | ok b => exact .ok (hput a b record)

/-- Reads the entry of one key. -/
def readEntry (fields : List (Field σ)) (entry : String × Value) (record : σ) :
    Except DecodeError σ :=
  match fields.find? fun field => field.name == entry.1 with
  | some field => field.read entry.2 record
  | none => .error (.unknownField entry.1 (fields.map Field.name))

/-- The entry in front is read first. -/
theorem readEntries_cons (entry : String × Value) (rest : Entries) (record : σ) :
    readEntries fields (entry :: rest) record =
      readEntry fields entry record >>= readEntries fields rest := by
  unfold readEntry
  rw [readEntries]
  cases fields.find? fun field => field.name == entry.1 <;> rfl

/-- Entries with the same keys and related values are read into related records. -/
theorem agree_readEntries {R : σ → σ → Prop} {Q : String → Value → Value → Prop}
    (hfields : ∀ field ∈ fields, ∀ v w record record', Q field.name v w → R record record' →
      Agree R (field.read v record) (field.read w record'))
    (hentries : List.Forall₂ (fun a b => b.1 = a.1 ∧ Q a.1 a.2 b.2) entries entries')
    (hrecord : R record record') :
    Agree R (readEntries fields entries record) (readEntries fields entries' record') := by
  induction hentries generalizing record record' with
  | nil => exact .ok hrecord
  | @cons a b _ _ hentry _ ih =>
    obtain ⟨_, v⟩ := a
    obtain ⟨key, w⟩ := b
    obtain ⟨hkey, hvalue⟩ := hentry
    dsimp only at hkey hvalue
    subst hkey
    rw [readEntries_cons, readEntries_cons]
    refine Agree.bind ?_ fun _ _ hnext => ih hnext
    unfold readEntry
    dsimp only
    cases hfield : fields.find? fun field => field.name == key with
    | none => exact .error
    | some field =>
      have hname : field.name = key := by simpa using List.find?_some hfield
      exact hfields field (List.mem_of_find?_eq_some hfield) v w record record' (hname ▸ hvalue)
        hrecord

/-- The entries of different keys may be read in either order. -/
theorem agree_readEntry_swap (hcommutes : fields.Pairwise Field.Commutes)
    {a b : String × Value} (hne : a.1 ≠ b.1) (record : σ) :
    Agree Eq (readEntry fields a record >>= readEntry fields b)
      (readEntry fields b record >>= readEntry fields a) := by
  unfold readEntry
  cases ha : fields.find? fun field => field.name == a.1 with
  -- an unknown key is an error, whenever it is read
  | none =>
    dsimp only
    cases fields.find? fun field => field.name == b.1 with
    | none => exact .error
    | some g =>
      dsimp only
      cases g.read b.2 record <;> exact .error
  | some f =>
    cases hb : fields.find? fun field => field.name == b.1 with
    | none =>
      dsimp only
      cases f.read a.2 record <;> exact .error
    | some g =>
      have hname : f.name = a.1 := by simpa using List.find?_some ha
      have hname' : g.name = b.1 := by simpa using List.find?_some hb
      -- commuting holds both ways, so the order of the two fields does not matter
      have hdifferent : fields.Pairwise fun f g => f.name ≠ g.name → f.Commutes g := by
        refine hcommutes.imp fun hfg => ?_
        exact fun _ => hfg
      have hflip : fields.Pairwise fun g f => f.name ≠ g.name → f.Commutes g := by
        refine hcommutes.imp fun hgf => ?_
        exact fun _ v w record => (hgf w v record).symm
      have hboth := hdifferent.forall_of_forall_of_flip (fun _ _ hself => absurd rfl hself) hflip
        (List.mem_of_find?_eq_some ha) (List.mem_of_find?_eq_some hb)
      exact hboth (by rwa [hname, hname']) a.2 b.2 record

/-- Entries of different keys are read into the same record **in any order**. -/
theorem agree_readEntries_perm (hcommutes : fields.Pairwise Field.Commutes)
    (hperm : entries.Perm entries') (hnodup : (entries.map Prod.fst).Nodup) (record : σ) :
    Agree Eq (readEntries fields entries record) (readEntries fields entries' record) := by
  induction hperm generalizing record with
  | nil => exact .of_eq _
  | cons a _ ih =>
    rw [readEntries_cons, readEntries_cons]
    refine (Agree.of_eq _).bind ?_
    rintro next _ rfl
    exact ih (List.nodup_cons.1 hnodup).2 next
  | swap a b rest =>
    have hne : b.1 ≠ a.1 := fun hsame => (List.nodup_cons.1 hnodup).1 (by simp [hsame])
    have htwo (a b : String × Value) : readEntries fields (a :: b :: rest) record =
        (readEntry fields a record >>= readEntry fields b) >>= readEntries fields rest := by
      rw [readEntries_cons, bind_assoc]
      exact bind_congr fun next => readEntries_cons b rest next
    rw [htwo, htwo]
    refine (agree_readEntry_swap hcommutes hne record).bind ?_
    rintro next _ rfl
    exact .of_eq _
  | trans hfirst _ ih ih' =>
    have hnodup' := (hfirst.map Prod.fst).nodup_iff.1 hnodup
    exact (ih hnodup record).trans (ih' hnodup' record) fun _ _ _ => Eq.trans

/-! ## Records -/

/-- Entries that are **rearranged**: they have the same keys with related values, and stand in
another order if no key stands there twice. -/
def Rearranged (Q : String → Value → Value → Prop) (entries entries' : Entries) : Prop :=
  ∃ same, List.Forall₂ (fun a b => b.1 = a.1 ∧ Q a.1 a.2 b.2) entries same ∧
    (same = entries' ∨ (same.map Prod.fst).Nodup ∧ same.Perm entries')

/-- Rearranged entries have the same keys. -/
theorem Rearranged.mem_keys {Q : String → Value → Value → Prop}
    (h : Rearranged Q entries entries') (key : String) :
    key ∈ entries.map Prod.fst ↔ key ∈ entries'.map Prod.fst := by
  obtain ⟨same, hsame, horder⟩ := h
  have hkeys : same.map Prod.fst = entries.map Prod.fst := by
    clear horder
    induction hsame with
    | nil => rfl
    | cons hentry _ ih => rw [List.map_cons, List.map_cons, hentry.1, ih]
  rw [← hkeys]
  rcases horder with rfl | ⟨-, hperm⟩
  · exact Iff.rfl
  · exact (hperm.map Prod.fst).mem_iff

/-- A key without a value is one that is not there. -/
theorem isNone_lookup_iff (key : String) (entries : Entries) :
    (entries.lookup key).isNone = true ↔ key ∉ entries.map Prod.fst := by
  rw [Option.isNone_iff_eq_none, List.lookup_eq_none_iff]
  simp only [List.mem_map, not_exists, not_and, bne_iff_ne, ne_eq]
  exact ⟨fun h p hp hkey => h p hp hkey.symm, fun h p hp hkey => h p hp hkey.symm⟩

/-- Rearranged tables are decoded to related **records**. -/
theorem agree_record {R : σ → σ → Prop} {Q : String → Value → Value → Prop} {name : String}
    {form form' : TableForm} (hcommutes : fields.Pairwise Field.Commutes)
    (hfields : ∀ field ∈ fields, ∀ v w record record', Q field.name v w → R record record' →
      Agree R (field.read v record) (field.read w record'))
    (hentries : Rearranged Q entries entries') {initial : σ} (hinitial : R initial initial) :
    Agree R (Toml.record name fields initial (.table form entries))
      (Toml.record name fields initial (.table form' entries')) := by
  have hmissing : (fun f : Field σ => f.absence = .required && (entries.lookup f.name).isNone) =
      fun f => f.absence = .required && (entries'.lookup f.name).isNone := by
    funext f
    have hiff : (entries.lookup f.name).isNone = true ↔ (entries'.lookup f.name).isNone = true := by
      rw [isNone_lookup_iff, isNone_lookup_iff, hentries.mem_keys]
    rw [Bool.eq_iff_iff.2 hiff]
  have hread : Agree R (readEntries fields entries initial)
      (readEntries fields entries' initial) := by
    obtain ⟨same, hsame, horder⟩ := hentries
    have hfirst := agree_readEntries hfields hsame hinitial
    rcases horder with rfl | ⟨hnodup, hperm⟩
    · exact hfirst
    · refine hfirst.trans (agree_readEntries_perm hcommutes hperm hnodup initial) ?_
      rintro a b _ hab rfl
      exact hab
  unfold Toml.record
  dsimp only
  rw [hmissing]
  refine hread.bind fun a b hab => ?_
  split
  · exact .error
  · exact .ok hab

end SchemaBinding.Toml
