import FlowClient.Command
import Mathlib.Data.List.Induction
import Mathlib.Data.List.Nodup

/-! How targets are grouped. There is one group for each server that is named, in the order in
which the servers are named first, and it has just the targets of that server as they stand in
the list. -/

namespace FlowClient

/-! ## First occurrences -/

theorem eraseDups_concat {α : Type} [DecidableEq α] (names : List α) (name : α) :
    (names ++ [name]).eraseDups =
      if name ∈ names then names.eraseDups else names.eraseDups ++ [name] := by
  have single : [name].eraseDups = [name] := by simp [List.eraseDups_cons]
  rw [List.eraseDups_append]
  split <;> simp [List.removeAll, *]

theorem nodup_eraseDups {α : Type} [DecidableEq α] (names : List α) : names.eraseDups.Nodup := by
  induction names using List.reverseRecOn with
  | nil => exact List.nodup_nil
  | append_singleton names name induction =>
      rw [eraseDups_concat]
      split
      · exact induction
      · rename_i fresh
        exact List.nodup_append.mpr ⟨induction, List.nodup_singleton name, by
          simpa [List.mem_eraseDups] using fun other member => ne_of_mem_of_not_mem member fresh⟩

/-! ## Groups -/

variable {target : Target} {servers : List String} {members : String → List Target}

theorem addToGroups_of_mem (known : target.server ∈ servers) (distinct : servers.Nodup) :
    addToGroups target (servers.map fun server => (server, members server)) =
      servers.map fun server =>
        (server, members server ++ if server = target.server then [target] else []) := by
  induction servers with
  | nil => cases known
  | cons server servers induction =>
      rcases List.nodup_cons.mp distinct with ⟨absent, distinct⟩
      rw [List.map_cons, addToGroups, List.map_cons]
      by_cases same : server = target.server
      · rw [if_pos same, if_pos same]
        congr 1
        refine List.map_congr_left fun other member => ?_
        have different : other ≠ target.server := same ▸ ne_of_mem_of_not_mem member absent
        rw [if_neg different, List.append_nil]
      · rw [if_neg same, if_neg same, List.append_nil]
        rcases List.mem_cons.mp known with here | later
        · exact absurd here.symm same
        · rw [induction later distinct]

theorem addToGroups_of_not_mem (unknown : target.server ∉ servers) :
    addToGroups target (servers.map fun server => (server, members server)) =
      (servers.map fun server => (server, members server)) ++ [(target.server, [target])] := by
  induction servers with
  | nil => rfl
  | cons server servers induction =>
      rw [List.mem_cons, not_or] at unknown
      rw [List.map_cons, addToGroups, if_neg (Ne.symm unknown.1), induction unknown.2]
      rfl

/-- The servers that are named, in the order in which they are named first. -/
def serversOf (targets : List Target) : List String := (targets.map Target.server).eraseDups

/-- The targets of one server, as they stand in the list. -/
def targetsOf (targets : List Target) (server : String) : List Target :=
  targets.filter (·.server = server)

theorem mem_serversOf {targets : List Target} {server : String} :
    server ∈ serversOf targets ↔ ∃ target ∈ targets, target.server = server := by
  simp [serversOf, List.mem_eraseDups]

theorem targetsOf_concat (targets : List Target) (last : Target) (server : String) :
    targetsOf (targets ++ [last]) server =
      targetsOf targets server ++ if server = last.server then [last] else [] := by
  by_cases same : last.server = server
  · simp [targetsOf, same]
  · simp [targetsOf, same, Ne.symm same]

theorem targetsOf_of_not_mem {targets : List Target} {server : String}
    (unnamed : server ∉ serversOf targets) : targetsOf targets server = [] := by
  refine List.filter_eq_nil_iff.mpr fun target member same => ?_
  exact unnamed (mem_serversOf.mpr ⟨target, member, of_decide_eq_true same⟩)

/-- No target is lost, none is there twice, and those of one server keep their order. -/
theorem groupByServer_eq (targets : List Target) : groupByServer targets =
    (serversOf targets).map fun server => (server, targetsOf targets server) := by
  induction targets using List.reverseRecOn with
  | nil => rfl
  | append_singleton targets last induction =>
      have step : groupByServer (targets ++ [last]) = addToGroups last (groupByServer targets) := by
        rw [groupByServer, List.foldl_append]
        rfl
      have distinct : (serversOf targets).Nodup := nodup_eraseDups _
      have servers : serversOf (targets ++ [last]) =
          if last.server ∈ serversOf targets then serversOf targets
          else serversOf targets ++ [last.server] := by
        simp only [serversOf, List.map_append, List.map_cons, List.map_nil, eraseDups_concat,
          List.mem_eraseDups]
      rw [step, induction, servers]
      simp only [targetsOf_concat]
      by_cases known : last.server ∈ serversOf targets
      · rw [if_pos known, addToGroups_of_mem known distinct]
      · rw [if_neg known, addToGroups_of_not_mem known, List.map_append]
        congr 1
        · refine List.map_congr_left fun server member => ?_
          rw [if_neg (ne_of_mem_of_not_mem member known), List.append_nil]
        · simp [targetsOf_of_not_mem known]

end FlowClient
