import DeterminedTasks.Basic
import Mathlib.Data.List.Nodup

/-! The readiness-check map of `command` and `readinessChecksPass`, which deletes from the map
while ranging over it. The range order is a parameter: any permutation of the entries. -/

namespace DeterminedTasks

abbrev ReadinessCheck := ContainerLog → Bool

-- A Go `map[string]readinessCheck`: entries with pairwise distinct names.
@[ext] structure CheckMap where
  entries : List (String × ReadinessCheck)
  names_nodup : (entries.map Prod.fst).Nodup

def CheckMap.empty : CheckMap := ⟨[], List.nodup_nil⟩

def CheckMap.filter (checks : CheckMap) (keep : String × ReadinessCheck → Bool) : CheckMap :=
  ⟨checks.entries.filter keep,
    ((checks.entries.filter_sublist).map Prod.fst).nodup checks.names_nodup⟩

def CheckMap.delete (checks : CheckMap) (name : String) : CheckMap :=
  checks.filter (fun entry => entry.1 != name)

@[simp] theorem CheckMap.filter_entries (checks : CheckMap)
    (keep : String × ReadinessCheck → Bool) :
    (checks.filter keep).entries = checks.entries.filter keep := rfl

/-- `readinessChecksPass`: the range visits `visit`, the map's entries in the order the Go
runtime picks, and deletes each check the log line passes; the result reports an empty map. -/
def readinessChecksPass (visit : List (String × ReadinessCheck)) (checks : CheckMap)
    (log : ContainerLog) : CheckMap × Bool :=
  let remaining := visit.foldl
    (fun current entry => if entry.2 log then current.delete entry.1 else current) checks
  (remaining, remaining.entries.length == 0)

theorem foldl_delete_entries (visit : List (String × ReadinessCheck)) (checks : CheckMap)
    (log : ContainerLog) :
    (visit.foldl (fun current entry => if entry.2 log then current.delete entry.1 else current)
        checks).entries =
      checks.entries.filter
        (fun entry => !visit.any (fun seen => seen.2 log && seen.1 == entry.1)) := by
  induction visit generalizing checks with
  | nil => simp
  | cons seen rest ih =>
      rw [List.foldl_cons, ih]
      by_cases passes : seen.2 log
      · simp only [passes, if_true, CheckMap.delete, CheckMap.filter_entries, List.filter_filter]
        congr 1
        funext entry
        simp only [List.any_cons, passes, Bool.true_and, Bool.not_or, bne]
        rw [Bool.and_comm, Bool.beq_comm]
      · simp [passes]

theorem visit_any_iff (checks : CheckMap) {visit : List (String × ReadinessCheck)}
    (order : visit.Perm checks.entries) (log : ContainerLog) {entry : String × ReadinessCheck}
    (present : entry ∈ checks.entries) :
    visit.any (fun seen => seen.2 log && seen.1 == entry.1) = entry.2 log := by
  apply Bool.eq_iff_iff.mpr
  simp only [List.any_eq_true, Bool.and_eq_true, beq_iff_eq]
  constructor
  · rintro ⟨seen, member, passes, same⟩
    have equal := List.inj_on_of_nodup_map checks.names_nodup (order.subset member) present same
    exact equal ▸ passes
  · exact fun passes => ⟨entry, order.symm.subset present, passes, rfl⟩

theorem readinessChecksPass_remaining (checks : CheckMap) {visit : List (String × ReadinessCheck)}
    (order : visit.Perm checks.entries) (log : ContainerLog) :
    (readinessChecksPass visit checks log).1 = checks.filter (fun entry => !entry.2 log) := by
  ext1
  simp only [readinessChecksPass, foldl_delete_entries, CheckMap.filter_entries]
  exact List.filter_congr fun entry present => by rw [visit_any_iff checks order log present]

theorem readinessChecksPass_passed (visit : List (String × ReadinessCheck)) (checks : CheckMap)
    (log : ContainerLog) :
    (readinessChecksPass visit checks log).2 =
      (readinessChecksPass visit checks log).1.entries.isEmpty := by
  simp only [readinessChecksPass]
  cases (List.foldl _ checks visit).entries <;> rfl

end DeterminedTasks
