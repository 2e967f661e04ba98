import Accounts.Proofs.Replay

/-!
# What a backing is opened as

A backing that cannot be read, or that does not hold a whole number of records, is
an error for the strict opening and an empty table for the lenient one. Every other
backing gives both the same table: in the order of the records, those accounts among
the first records, as many as the capacity, whose name no earlier record has.
-/

namespace Accounts

/-- The name that is read at a place, if a record with a readable name is there. -/
def nameAt (bytes : Bytes) (place : Nat) : Option String :=
  (Account.decode? (recordAt bytes place)).map Account.username

/-- The account at a place, if no earlier record is read with its name. -/
def firstOfName (bytes : Bytes) (place : Nat) : Option Account :=
  (Account.decode? (recordAt bytes place)).filter fun account =>
    ∀ earlier < place, nameAt bytes earlier ≠ some account.username

theorem Backing.read_ok_iff {backing : Backing} {content : Option Bytes} :
    backing.read = .ok content ↔ backing.readFault = none ∧ backing.content = content := by
  unfold read
  cases backing.readFault <;> simp

namespace Store

theorem mem_kept_usernames {bytes : Bytes} {count : Nat} {username : String} :
    username ∈ (keepAll [] ((List.range count).map (recordAt bytes))).map Account.username ↔
      ∃ earlier < count, nameAt bytes earlier = some username := by
  rw [mem_keep_all_usernames]
  simp [nameAt]

/-- The account of a record is added to the rows of the records in front of it, if it is the first
of its name. -/
theorem keep_record_at (bytes : Bytes) (place : Nat) :
    let rows := keepAll [] ((List.range place).map (recordAt bytes))
    keep rows (recordAt bytes place) = rows ++ (firstOfName bytes place).toList := by
  intro rows
  cases decoded : Account.decode? (recordAt bytes place) with
  | none => simp [keep, firstOfName, decoded]
  | some account =>
      have listed : hasUsername rows account.username = true ↔
          ∃ earlier < place, nameAt bytes earlier = some account.username := by
        rw [has_username_iff, mem_kept_usernames]
      by_cases taken : ∃ earlier < place, nameAt bytes earlier = some account.username
      · have passed : firstOfName bytes place = none := by
          simpa [firstOfName, decoded] using taken
        simp [keep, decoded, listed.mpr taken, passed]
      · have added : firstOfName bytes place = some account := by
          simpa [firstOfName, decoded] using taken
        have fresh : hasUsername rows account.username = false := by
          rw [← Bool.not_eq_true, listed]
          exact taken
        simp [keep, decoded, fresh, added]

theorem keep_all_eq_first_of_name (bytes : Bytes) (count : Nat) :
    keepAll [] ((List.range count).map (recordAt bytes)) =
      (List.range count).filterMap (firstOfName bytes) := by
  -- a record is judged by those in front of it, so one more record leaves their verdicts alone
  induction count with
  | zero => rfl
  | succ count ih =>
      have last : [count].filterMap (firstOfName bytes) = (firstOfName bytes count).toList := by
        cases first : firstOfName bytes count <;> simp [first]
      rw [List.range_succ, List.map_append, keep_all_append, List.filterMap_append, ← ih, last]
      exact keep_record_at bytes count

theorem opened_first_of_name {backing : Backing} {capacity : Nat} {store : Store} {bytes : Bytes}
    (opened : Opened backing capacity store) (content : backing.content = some bytes) :
    store.rows = (List.range (min (bytes.length / recordWidth) capacity)).filterMap
      (firstOfName bytes) := by
  have records : backing.records = recordsOf bytes := by
    rw [Backing.records, Backing.bytes, content, Option.getD_some]
  rw [opened.rows_eq, records, records_of_take, keep_all_eq_first_of_name]

theorem try_load_of_not_read {backing : Backing} {fault : Fault} (capacity : Nat)
    (failed : backing.read = .error fault) :
    tryLoad backing capacity = .error (.storage fault) := by
  simp only [tryLoad, failed]

theorem try_load_of_missing {backing : Backing} (capacity : Nat)
    (missing : backing.read = .ok none) :
    tryLoad backing capacity =
      .ok ⟨backing, capacity, [], .fresh, [.tableMissing backing.location]⟩ := by
  simp only [tryLoad, missing]

theorem try_load_of_torn {backing : Backing} {bytes : Bytes} (capacity : Nat)
    (read : backing.read = .ok (some bytes)) (torn : bytes.length % recordWidth ≠ 0) :
    tryLoad backing capacity = .error (.corruptTable backing.location bytes.length) := by
  simp only [tryLoad, read, if_neg torn]

/-- The two openings of a backing agree wherever the strict one succeeds, and the rows of a replay
are those accounts of the first records whose name no earlier record has. -/
theorem openings_agree (backing : Backing) (capacity : Nat) :
    let opened := load backing capacity
    opened.backing = backing ∧ opened.capacity = capacity ∧
      (∀ fault, backing.read = .error fault →
        tryLoad backing capacity = .error (.storage fault) ∧
          opened.rows = [] ∧ opened.status = .unreadable) ∧
      (backing.read = .ok none →
        tryLoad backing capacity = .ok opened ∧ opened.rows = [] ∧ opened.status = .fresh) ∧
      ∀ bytes, backing.read = .ok (some bytes) →
        (bytes.length % recordWidth ≠ 0 →
          tryLoad backing capacity = .error (.corruptTable backing.location bytes.length) ∧
            opened.rows = [] ∧ opened.status = .corrupt bytes.length) ∧
        (bytes.length % recordWidth = 0 →
          tryLoad backing capacity = .ok opened ∧
            opened.rows = (List.range (min (bytes.length / recordWidth) capacity)).filterMap
              (firstOfName bytes) ∧
            opened.status = .loaded opened.rows.length) := by
  intro opened
  refine ⟨load_backing, load_capacity, ?_, ?_, ?_⟩
  · intro fault failed
    have refused := try_load_of_not_read capacity failed
    simp only [opened, load, refused, and_self]
  · intro missing
    have fresh := try_load_of_missing capacity missing
    simp only [opened, load, fresh, and_self]
  · intro bytes read
    constructor
    · intro torn
      have refused := try_load_of_torn capacity read torn
      simp only [opened, load, refused, and_self]
    · intro aligned
      obtain ⟨readable, content⟩ := Backing.read_ok_iff.mp read
      have whole : backing.Whole :=
        ⟨readable, by rwa [Backing.bytes, content, Option.getD_some]⟩
      obtain ⟨store, loaded, replayed⟩ := try_load_whole capacity whole
      have same : opened = store := by simp only [opened, load, loaded]
      have status := replayed.status_eq
      rw [content, if_neg (Option.some_ne_none bytes)] at status
      rw [same]
      exact ⟨loaded, opened_first_of_name replayed content, status⟩

/-- An unreadable record, eve, eve again with another salt, bob and carol. -/
def repeatedBytes : Bytes :=
  let account (username : String) (salt : Byte) : Bytes :=
    Account.encode ⟨username, Vector.replicate 16 salt, Vector.replicate 32 9, 1000, "token"⟩
  List.replicate 149 0xff ++ account "eve" 1 ++ account "eve" 2 ++ account "bob" 3 ++
    account "carol" 4

theorem repeated_name_is_passed_over :
    let account (username : String) (salt : Byte) : Account :=
      ⟨username, Vector.replicate 16 salt, Vector.replicate 32 9, 1000, "token"⟩
    let whole : Backing := .sound "users" (some repeatedBytes)
    let torn : Backing := .sound "users" (some (0 :: repeatedBytes))
    let locked : Backing := { whole with readFault := some .notDirectory }
    (tryLoad whole 4 = .ok (load whole 4) ∧
        (load whole 4).rows = [account "eve" 1, account "bob" 3] ∧
        (load whole 4).status = .loaded 2) ∧
      (tryLoad torn 4 = .error (.corruptTable "users" 746) ∧ (load torn 4).status = .corrupt 746) ∧
      (tryLoad locked 4 = .error (.storage .notDirectory) ∧ (load locked 4).status = .unreadable) ∧
      (load (.sound "users" none) 4).status = .fresh := by
  intro account whole torn locked
  obtain ⟨_, _, _, _, replayed⟩ := openings_agree whole 4
  obtain ⟨_, _, _, _, refused⟩ := openings_agree torn 4
  obtain ⟨_, _, failed, _, _⟩ := openings_agree locked 4
  obtain ⟨_, _, _, missing, _⟩ := openings_agree (.sound "users" none) 4
  obtain ⟨loaded, rows, status⟩ := (replayed repeatedBytes rfl).2 (by decide +kernel)
  obtain ⟨broken, _, corrupt⟩ := (refused (0 :: repeatedBytes) rfl).1 (by decide +kernel)
  obtain ⟨unread, _, unreadable⟩ := failed .notDirectory rfl
  have first : (List.range (min (repeatedBytes.length / recordWidth) 4)).filterMap
      (firstOfName repeatedBytes) = [account "eve" 1, account "bob" 3] := by decide +kernel
  have size : (0 :: repeatedBytes).length = 746 := by decide +kernel
  rw [first] at rows
  rw [rows] at status
  rw [size] at broken corrupt
  exact ⟨⟨loaded, rows, status⟩, ⟨broken, corrupt⟩, ⟨unread, unreadable⟩, (missing rfl).2.2⟩

end Store

end Accounts
