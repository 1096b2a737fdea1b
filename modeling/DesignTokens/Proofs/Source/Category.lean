import DesignTokens.Proofs.Style.Definition
import DesignTokens.Proofs.Workspace.Authority

/-!
# The categories of loaded records

A source gives each record the category that is read off its name (`Source.category_of_load`), so
that all records of one name, of whatever source, have the same category.

Where names are changed on the way into a record, the category is read off the changed name (a
configuration key) or the change does nothing (a variable is a trimmed name with two dashes).
-/

namespace DesignTokens

namespace Style

variable {a : Acceptance} {t : Text} {name value : Text}

/-- A variable has the name of a token. -/
lemma dashed_strip_of_mem (h : (name, value) ∈ resolved (variablesOf a t)) :
    Text.dashed (Text.strip name) = name := by
  obtain ⟨⟨n, v⟩, he, heq⟩ := List.mem_map.mp h
  obtain rfl : n = name := congrArg Prod.fst heq
  have hkey : n ∈ (variablesOf a t).keys := List.mem_map.mpr ⟨(n, v), he, rfl⟩
  obtain ⟨hcustom, ended, hdeclares⟩ := mem_keys_variablesOf_iff.mp hkey
  rw [hdeclares.isPropertyName.trimmed.strip_eq, Text.dashed]
  exact if_pos hcustom

end Style

namespace Source

variable {s : Source} {f : FileTree} {rs : List TokenRecord}

/-- A source gives a record the category that it is told. -/
@[simp] lemma category_record (name value : Text) (theme : Theme) (category : Category)
    (description : Option Text) :
    (s.record name value theme category description).category = category := rfl

/-- A source gives a record the name that it is told. -/
@[simp] lemma name_record (name value : Text) (theme : Theme) (category : Category)
    (description : Option Text) :
    (s.record name value theme category description).name = String.ofList name := rfl

/-- A loaded record is of the category of its name. -/
theorem category_of_load (h : s.load f = .ok rs) :
    ∀ r ∈ rs, r.category = Category.ofName r.name := by
  unfold load at h
  split at h
  · cases h
  · split at h
    · cases h
      intro r hr
      simp only [datasetRecords, List.mem_append, List.mem_map] at hr
      rcases hr with ⟨e, -, rfl⟩ | ⟨e, -, rfl⟩ <;> rfl
    · cases h
  · obtain ⟨⟨p, t⟩, -, hrs⟩ := bind_eq_ok_iff.mp h
    cases hrs
    intro r hr
    obtain ⟨⟨name, value⟩, he, rfl⟩ := List.mem_map.mp hr
    simp only [category_record, name_record, Style.dashed_strip_of_mem he]
  · obtain ⟨⟨p, t⟩, -, hrs⟩ := bind_eq_ok_iff.mp h
    cases hrs
    intro r hr
    obtain ⟨⟨key, value⟩, -, rfl⟩ := List.mem_map.mp hr
    simp only [category_record, name_record, String.ofList_toList]

end Source

end DesignTokens
