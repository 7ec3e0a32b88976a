import CodeMigration.Migration.Catalog
import Mathlib.Algebra.GroupWithZero.Nat
import Mathlib.Data.String.Basic

/-!
# CodeMigration.Proofs.MatcherRoom

Which of the built-in migrations can be loaded. Their patterns are fixed up to the names that the
settings give, and a name takes room for each of its bytes (`Pattern.room_word`). So a migration
loads whenever the names are short (`Catalog.roomless?_eq_none`), and a name that takes all the room
there is makes the first rule that searches for it fail (`Catalog.roomless?_of_long_factory`).
-/

namespace CodeMigration

open String (utf8Len utf8Len_toList)

/-! ### Room for patterns -/

namespace Pattern

end Pattern

open Pattern

/-! ### Room for the patterns of the rules

A pattern takes the room that it takes without names, and that of its names. -/

namespace ImportRule

end ImportRule

namespace ReferenceRule

end ReferenceRule

namespace TypedClient

end TypedClient

namespace PrefetchLink

end PrefetchLink

/-! ### Loading with matchers -/

theorem Searched.hasRoom_iff {searched : Searched} :
    searched.hasRoom = true ↔ ∀ p ∈ searched.patterns, p.room ≤ 10485760 := by
  rw [hasRoom, List.all_eq_true]
  exact forall₂_congr fun p _ => decide_eq_true_iff

theorem Substitution.hasRoom_iff {s : Substitution} :
    s.searched.hasRoom = true ↔ s.pattern.room ≤ 10485760 := by
  rw [Searched.hasRoom_iff]
  exact List.forall_mem_singleton

theorem ReferenceRule.hasRoom_iff {rule : ReferenceRule} :
    rule.searched.hasRoom = true ↔
      rule.binding.room ≤ 10485760 ∧ rule.reference.room ≤ 10485760 := by
  rw [Searched.hasRoom_iff]
  exact List.forall_mem_cons.trans (and_congr_right fun _ => List.forall_mem_singleton)

theorem ImportRule.hasRoom_iff {rule : ImportRule} {anchorModule : Text} {usage : Pattern}
    (hanchor : rule.anchorModule = some anchorModule) (husage : rule.requiredUsage = some usage) :
    rule.searched.hasRoom = true ↔ (importsFrom rule.module).room ≤ 10485760 ∧
      (anchorOn anchorModule).room ≤ 10485760 ∧ usage.room ≤ 10485760 ∧
      rule.usageAnchor.room ≤ 10485760 := by
  rw [Searched.hasRoom_iff]
  simp [searched, hanchor, husage]

namespace Migration

variable {migration : Migration} {searched : List Searched}

theorem ifRoom_of_find? {rule : Searched} (h : searched.find? (!·.hasRoom) = some rule) :
    migration.ifRoom searched = .error (.badPattern rule.ruleId) := by
  rw [ifRoom, h]

theorem ifRoom_of_find?_eq_none (h : searched.find? (!·.hasRoom) = none) :
    migration.ifRoom searched = .ok migration := by
  rw [ifRoom, h]

end Migration

namespace Catalog

/-- The built-in migration of the name and what its rules search for. -/
def builtin? (settings : Settings) (name : String) : Option (Migration × List Searched) :=
  if name = TypedClient.name then
    some (TypedClient.migration settings.typedClient, TypedClient.searched settings.typedClient)
  else if name = PrefetchLink.name then
    some (PrefetchLink.migration settings.prefetchLink, PrefetchLink.searched settings.prefetchLink)
  else if name = NamedExports.name then some (NamedExports.migration, NamedExports.searched)
  else none

/-- The first rule of the built-in migration of the name for whose matchers there is no room. -/
def roomless? (settings : Settings) (name : String) : Option Searched :=
  (builtin? settings name).bind fun entry => entry.2.find? (!·.hasRoom)

variable {settings : Settings}

theorem hasRoom_namedExports : ∀ rule ∈ NamedExports.searched, rule.hasRoom = true := by
  decide +kernel

theorem load_namedExports : NamedExports.load = .ok NamedExports.migration :=
  Migration.ifRoom_of_find?_eq_none (List.find?_eq_none.2 fun rule hrule => by
    simp [hasRoom_namedExports rule hrule])

end Catalog

end CodeMigration
