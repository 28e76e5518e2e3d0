import SchemaBinding.Proofs.Simulation.Basic

/-! # Runs that concur
Documentation and reserved names are written while bodies are built, and sources only say where
diagnostics point to. So states are compared that **concur**: nothing but the documentation of
classes tells their models apart, and their diagnostics agree where they are about packages and
unused customizations, except in what they point to. -/

namespace SchemaBinding

open Resolver (State)

/-! ## Models without documentation -/

/-- Paragraphs that are appended are part of the documentation, which is left out. -/
theorem ClassInfo.undocumented_foldl_appendDoc (paragraphs : List String) (c : ClassInfo) :
    (paragraphs.foldl appendDoc c).undocumented = c.undocumented := by
  obtain ⟨doc, hdoc⟩ := foldl_appendDoc paragraphs c
  rw [hdoc]
  rfl

namespace Model

/-- A model without the **documentation** of its classes. -/
def undocumented (m : Model) : Model := { m with classes := m.classes.map ClassInfo.undocumented }

variable (m : Model)

@[simp] theorem packages_undocumented : m.undocumented.packages = m.packages := rfl

/-- A class says the same without the documentation. -/
theorem classInfo_undocumented (k : ClassId) :
    m.undocumented.classInfo k = (m.classInfo k).undocumented := by
  unfold classInfo undocumented
  rw [Array.getD_eq_getD_getElem?, Array.getD_eq_getD_getElem?, Array.getElem?_map]
  cases m.classes[k.index]? <;> rfl

/-- Packages are added alike with and without documentation. -/
theorem package_undocumented (name : String) :
    m.undocumented.package name = ((m.package name).1, (m.package name).2.undocumented) := by
  unfold package findPackage?
  rw [packages_undocumented]
  cases m.packages.toList.idxOf? name <;> rfl

/-- Classes are added alike with and without documentation. -/
theorem newClass_undocumented (name : String) (scope : Scope) :
    m.undocumented.newClass name scope =
      ((m.newClass name scope).1, (m.newClass name scope).2.undocumented) := by
  unfold newClass undocumented
  rw [Array.size_map, Array.map_push]
  rfl

/-- Wrappers are added alike with and without documentation. -/
theorem newElement_undocumented (name ns : String) (scope : Scope) :
    m.undocumented.newElement name ns scope =
      ((m.newElement name ns scope).1, (m.newElement name ns scope).2.undocumented) := rfl

/-- Wrappers are changed alike with and without documentation. -/
theorem modifyElement_undocumented (w : ElementId) (f : ElementInfo → ElementInfo) :
    m.undocumented.modifyElement w f = (m.modifyElement w f).undocumented := rfl

/-- Classes are changed alike with and without documentation, by what does not read it. -/
theorem modifyClass_undocumented (k : ClassId) {f : ClassInfo → ClassInfo}
    (hf : ClassInfo.Unread f) :
    m.undocumented.modifyClass k f = (m.modifyClass k f).undocumented := by
  have hclasses : (m.classes.map ClassInfo.undocumented).modify k.index f =
      (m.classes.modify k.index f).map ClassInfo.undocumented := by
    refine Array.ext (by simp) fun i _ _ => ?_
    rw [Array.getElem_modify, Array.getElem_map, Array.getElem_map, Array.getElem_modify]
    split
    · exact (hf _).symm
    · rfl
  unfold modifyClass undocumented
  rw [hclasses]

/-- To document a class changes nothing else. -/
theorem undocumented_modifyClass (k : ClassId) {f : ClassInfo → ClassInfo}
    (hf : ∀ c : ClassInfo, (f c).undocumented = c.undocumented) :
    (m.modifyClass k f).undocumented = m.undocumented := by
  have hclasses : (m.classes.modify k.index f).map ClassInfo.undocumented =
      m.classes.map ClassInfo.undocumented := by
    refine Array.ext (by simp) fun i _ _ => ?_
    rw [Array.getElem_map, Array.getElem_map, Array.getElem_modify]
    split
    · exact hf _
    · rfl
  unfold modifyClass undocumented
  rw [hclasses]

end Model

/-! ## Notices -/

namespace Reports

/-- The keys of **notices**: of invalid package names and of unused customizations. -/
def noticeKeys : List String := [Finding.incorrectPackageNameKey, Finding.unusedCustomizationKey]

/-- The **notices** among the diagnostics, in order: their keys and messages. -/
def notices (r : Reports) : List (String × String) :=
  (r.diagnostics.filter fun d => noticeKeys.contains d.code).map fun d => (d.code, d.message)

/-- What is noticed about a finding does not depend on the sources. -/
theorem notices_raise (r : Reports) (f : Finding) :
    (r.raise f).notices =
      r.notices ++ if noticeKeys.contains f.key then [(f.key, f.message)] else [] := by
  unfold notices raise
  rw [List.filter_append, List.map_append, List.filter_singleton, Finding.code_diagnostic]
  cases noticeKeys.contains f.key <;> simp

/-- Findings with the same key and message give the same notices. -/
theorem notices_raise_congr {r r' : Reports} (h : r'.notices = r.notices) {f g : Finding}
    (hkey : g.key = f.key) (hmessage : g.message = f.message) :
    (r'.raise g).notices = (r.raise f).notices := by
  rw [notices_raise, notices_raise, h, hkey, hmessage]

/-- A finding of another kind goes without notice. -/
theorem notices_raise_of_not (r : Reports) {f : Finding} (h : noticeKeys.contains f.key = false) :
    (r.raise f).notices = r.notices := by
  rw [notices_raise, h]
  simp

end Reports

/-! ## States -/

/-- States **concur** when nothing but documentation and reports without notice tells them
apart. -/
inductive Resolver.State.Concurs (s : State) : State → Prop
  | intro {model : Model} {reports : Reports} (model_eq : model.undocumented = s.model.undocumented)
      (notices_eq : reports.notices = s.reports.notices) : Concurs s { s with model, reports }

namespace Resolver.State.Concurs

variable {s t u : State}

/-- A state concurs with itself. -/
theorem refl (s : State) : s.Concurs s := .intro rfl rfl

/-- States concur in either order. -/
theorem symm (h : s.Concurs t) : t.Concurs s := by
  cases h with
  | @intro model reports hmodel hreports =>
    exact .intro (s := { s with model, reports }) hmodel.symm hreports.symm

/-- What concurs with a concurring state concurs. -/
theorem trans (h : s.Concurs t) (h' : t.Concurs u) : s.Concurs u := by
  cases h with
  | intro hmodel hreports =>
    cases h' with
    | intro hmodel' hreports' => exact .intro (hmodel'.trans hmodel) (hreports'.trans hreports)

/-- States that concur agree on all that decides about the course of a run. -/
theorem abreast (h : s.Concurs t) : s.Abreast t := by
  cases h
  exact ⟨rfl, rfl, rfl, rfl, rfl, rfl, rfl, rfl⟩

/-- What concurring states have in common may be changed alike. -/
theorem change (h : s.Concurs t) {f : State → State}
    (hf : ∀ (s : State) model reports, f { s with model, reports } = { f s with model, reports }) :
    (f s).Concurs (f t) := by
  have hsame := hf s s.model s.reports
  cases h with
  | @intro model reports hmodel hreports =>
    rw [hf s model reports]
    refine .intro ?_ ?_
    · rw [hmodel, show (f s).model = s.model from (congrArg State.model hsame :)]
    · rw [hreports, show (f s).reports = s.reports from (congrArg State.reports hsame :)]

/-- Findings may be raised that are noticed alike. -/
theorem raise (h : s.Concurs t) {f g : Finding} (hkey : g.key = f.key)
    (hmessage : g.message = f.message) :
    Concurs { s with reports := s.reports.raise f } { t with reports := t.reports.raise g } := by
  cases h with
  | intro hmodel hreports =>
    exact .intro (s := { s with reports := s.reports.raise f }) hmodel
      (Reports.notices_raise_congr hreports hkey hmessage)

end Resolver.State.Concurs

end SchemaBinding
