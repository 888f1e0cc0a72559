import DocFinder.Proofs.DocumentRoot.Order
import Mathlib.Data.List.Nodup

namespace DocFinder

theorem mem_values_iff {α β : Type} (results : List (Except α β)) (value : β) :
    value ∈ results.filterMap Except.toOption ↔ .ok value ∈ results := by
  rw [List.mem_filterMap]
  constructor
  · rintro ⟨result, member, same⟩
    cases result with
    | error error => cases same
    | ok found =>
        cases same
        exact member
  · exact fun member => ⟨_, member, rfl⟩

namespace FileTree

def documents (items : List PathItem) : List Path := items.filterMap Except.toOption

theorem mem_documents_iff (items : List PathItem) (path : Path) :
    path ∈ documents items ↔ .ok path ∈ items :=
  mem_values_iff items path

end FileTree

namespace DocumentRoot

theorem itemsBelow_once (tree : FileTree) (verdict : Verdict) (root : Path)
    (before after : List PathItem) (path : Path)
    (parts : itemsBelow tree verdict root = before ++ .ok path :: after) :
    .ok path ∉ before ++ after := by
  have once := itemsBelow_nodup tree verdict root
  rw [parts, List.map_append, List.map_cons, List.nodup_middle, List.nodup_cons,
    ← List.map_append] at once
  intro member
  exact once.1 (List.mem_map_of_mem member)

end DocumentRoot

end DocFinder
