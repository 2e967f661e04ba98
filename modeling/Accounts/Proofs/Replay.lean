import Mathlib.Data.List.Nodup
import Accounts.Proofs.Record
import Accounts.Store

/-!
# Replaying a backing

What a table holds after a replay depends on the records alone: they are taken
one after the other, and a record that cannot be read or repeats a name is
passed over. Records appended later therefore add to the rows that were there.
-/

namespace Accounts

def recordsOf (bytes : Bytes) : List Bytes := splitRecords (bytes.length / recordWidth) bytes

/-- The record at a place of a backing; the first one is at place zero. -/
def recordAt (bytes : Bytes) (place : Nat) : Bytes :=
  (bytes.drop (place * recordWidth)).take recordWidth

theorem record_at_drop (bytes : Bytes) (place : Nat) :
    recordAt (bytes.drop recordWidth) place = recordAt bytes (place + 1) := by
  rw [recordAt, recordAt, List.drop_drop, Nat.succ_mul, Nat.add_comm]

theorem split_records_eq_map (count : Nat) (bytes : Bytes) :
    splitRecords count bytes = (List.range count).map (recordAt bytes) := by
  induction count generalizing bytes with
  | zero => rfl
  | succ count ih =>
      have first : recordAt bytes 0 = bytes.take recordWidth := by
        rw [recordAt, Nat.zero_mul, List.drop_zero]
      rw [splitRecords, ih, List.range_succ_eq_map, List.map_cons, List.map_map, first]
      congr 1
      apply List.map_congr_left
      intro place _
      exact record_at_drop bytes place

theorem split_records_append {count : Nat} {bytes : Bytes} (more : Nat) (rest : Bytes)
    (whole : bytes.length = count * recordWidth) :
    splitRecords (count + more) (bytes ++ rest) =
      splitRecords count bytes ++ splitRecords more rest := by
  induction count generalizing bytes with
  | zero =>
      have empty : bytes = [] := List.eq_nil_of_length_eq_zero (by omega)
      simp [empty, splitRecords]
  | succ count ih =>
      have room : recordWidth ≤ bytes.length := by
        rw [whole, Nat.succ_mul]
        omega
      have remaining : (bytes.drop recordWidth).length = count * recordWidth := by
        rw [List.length_drop, whole, Nat.succ_mul]
        omega
      rw [Nat.add_right_comm]
      simp only [splitRecords, List.cons_append]
      rw [List.take_append_of_le_length room, List.drop_append_of_le_length room, ih remaining]

theorem split_records_encoded (accounts : List Account) :
    splitRecords accounts.length (accounts.flatMap Account.encode) =
      accounts.map Account.encode := by
  induction accounts with
  | nil => rfl
  | cons account accounts ih =>
      have size : account.encode.length = recordWidth := encode_length account
      simp only [List.length_cons, List.flatMap_cons, List.map_cons, splitRecords]
      rw [List.take_left' size, List.drop_left' size, ih]

theorem encoded_length (accounts : List Account) :
    (accounts.flatMap Account.encode).length = accounts.length * recordWidth := by
  induction accounts with
  | nil => rfl
  | cons account accounts ih =>
      rw [List.flatMap_cons, List.length_append, encode_length, ih, List.length_cons, Nat.succ_mul,
        Nat.add_comm]

theorem split_records_width {count : Nat} {bytes record : Bytes}
    (enough : count * recordWidth ≤ bytes.length) (member : record ∈ splitRecords count bytes) :
    record.length = recordWidth := by
  rw [split_records_eq_map, List.mem_map] at member
  obtain ⟨place, inside, rfl⟩ := member
  have room := Nat.mul_le_mul_right recordWidth (List.mem_range.mp inside)
  rw [Nat.succ_mul] at room
  apply List.length_take_of_le
  rw [List.length_drop]
  omega

theorem records_of_width {bytes record : Bytes} (member : record ∈ recordsOf bytes) :
    record.length = recordWidth :=
  split_records_width (Nat.div_mul_le_self _ _) member

theorem records_of_take (bytes : Bytes) (capacity : Nat) :
    (recordsOf bytes).take capacity =
      (List.range (min (bytes.length / recordWidth) capacity)).map (recordAt bytes) := by
  rw [recordsOf, split_records_eq_map, ← List.map_take, List.take_range, Nat.min_comm]

theorem records_of_append {bytes : Bytes} (more : Bytes)
    (whole : bytes.length % recordWidth = 0) :
    recordsOf (bytes ++ more) = recordsOf bytes ++ recordsOf more := by
  have exact : bytes.length = bytes.length / recordWidth * recordWidth :=
    (Nat.div_mul_cancel (Nat.dvd_of_mod_eq_zero whole)).symm
  have count : (bytes ++ more).length / recordWidth =
      bytes.length / recordWidth + more.length / recordWidth := by
    rw [List.length_append]
    simp only [recordWidth] at whole ⊢
    omega
  rw [recordsOf, count, split_records_append _ _ exact]
  rfl

theorem records_of_length (bytes : Bytes) :
    (recordsOf bytes).length = bytes.length / recordWidth := by
  rw [recordsOf, split_records_eq_map, List.length_map, List.length_range]

theorem records_of_append_encoded {bytes : Bytes} (accounts : List Account)
    (whole : bytes.length % recordWidth = 0) :
    recordsOf (bytes ++ accounts.flatMap Account.encode) =
      recordsOf bytes ++ accounts.map Account.encode := by
  have count : (accounts.flatMap Account.encode).length / recordWidth = accounts.length := by
    rw [encoded_length]
    exact Nat.mul_div_cancel _ (by decide)
  rw [records_of_append _ whole, recordsOf, recordsOf, count, split_records_encoded]

namespace Store

theorem has_username_iff {rows : List Account} {username : String} :
    hasUsername rows username = true ↔ username ∈ rows.map Account.username := by
  simp [hasUsername]

def keep (rows : List Account) (record : Bytes) : List Account :=
  match Account.decode? record with
  | none => rows
  | some account => if hasUsername rows account.username then rows else rows ++ [account]

def keepAll (rows : List Account) (records : List Bytes) : List Account :=
  records.foldl keep rows

theorem keep_all_append (rows : List Account) (records later : List Bytes) :
    keepAll rows (records ++ later) = keepAll (keepAll rows records) later :=
  List.foldl_append

theorem replay_record_rows (location : String) (state : List Account × List Event)
    (record : Bytes × Nat) :
    (replayRecord location state record).1 = keep state.1 record.1 := by
  unfold replayRecord keep
  cases Account.decode? record.1 with
  | none => rfl
  | some account =>
      simp only
      split <;> rfl

theorem replay_records_rows (location : String) (state : List Account × List Event)
    (records : List Bytes) (index : Nat) :
    ((records.zipIdx index).foldl (replayRecord location) state).1 = keepAll state.1 records := by
  induction records generalizing state index with
  | nil => rfl
  | cons record records ih =>
      rw [List.zipIdx_cons, List.foldl_cons, ih, replay_record_rows]
      rfl

theorem replay_bytes_rows (location : String) (capacity : Nat) (bytes : Bytes) :
    (replayBytes location capacity bytes).1 = keepAll [] ((recordsOf bytes).take capacity) := by
  rw [replayBytes, split_records_eq_map, ← records_of_take, replay_records_rows]

theorem keep_nodup {rows : List Account} (record : Bytes)
    (distinct : (rows.map Account.username).Nodup) :
    ((keep rows record).map Account.username).Nodup := by
  unfold keep
  cases Account.decode? record with
  | none => exact distinct
  | some account =>
      simp only
      split
      · exact distinct
      · rename_i fresh
        rw [has_username_iff] at fresh
        rw [List.map_append, List.map_singleton, List.nodup_append_comm]
        exact List.nodup_cons.mpr ⟨fresh, distinct⟩

theorem keep_all_nodup {rows : List Account} (records : List Bytes)
    (distinct : (rows.map Account.username).Nodup) :
    ((keepAll rows records).map Account.username).Nodup := by
  induction records generalizing rows with
  | nil => exact distinct
  | cons record records ih => exact ih (keep_nodup record distinct)

theorem mem_keep_usernames {rows : List Account} {record : Bytes} {username : String} :
    username ∈ (keep rows record).map Account.username ↔
      username ∈ rows.map Account.username ∨
        (Account.decode? record).map Account.username = some username := by
  unfold keep
  cases Account.decode? record with
  | none => simp
  | some account =>
      simp only [Option.map_some, Option.some_inj]
      split
      · rename_i present
        rw [has_username_iff] at present
        constructor
        · exact .inl
        · rintro (known | rfl)
          · exact known
          · exact present
      · simp [eq_comm]

/-- The names of the rows are those of the records that can be read. -/
theorem mem_keep_all_usernames {rows : List Account} {records : List Bytes} {username : String} :
    username ∈ (keepAll rows records).map Account.username ↔
      username ∈ rows.map Account.username ∨
        ∃ record ∈ records, (Account.decode? record).map Account.username = some username := by
  induction records generalizing rows with
  | nil => simp [keepAll]
  | cons record records ih =>
      change username ∈ (keepAll (keep rows record) records).map Account.username ↔ _
      rw [ih, mem_keep_usernames, List.exists_mem_cons_iff, or_assoc]

/-- Of the records of accounts with different names, those with new names are kept. -/
theorem keep_all_encoded_new (rows added : List Account)
    (storable : ∀ account ∈ added, account.Storable)
    (distinct : (added.map Account.username).Nodup) :
    keepAll rows (added.map Account.encode) =
      rows ++ added.filter fun account => !hasUsername rows account.username := by
  induction added generalizing rows with
  | nil => simp [keepAll]
  | cons account added ih =>
      rw [List.map_cons, List.nodup_cons] at distinct
      have decoded := Account.decode_encode (storable account List.mem_cons_self)
      have later := fun kept => ih kept
        (fun other member => storable other (List.mem_cons_of_mem _ member)) distinct.2
      change keepAll (keep rows account.encode) (added.map Account.encode) = _
      rw [later]
      cases known : hasUsername rows account.username with
      | true => simp [keep, decoded, known]
      | false =>
          -- the account is now a row itself, which matters to no record behind it
          have others : added.filter (fun other =>
              !hasUsername (rows ++ [account]) other.username) =
              added.filter fun other => !hasUsername rows other.username := by
            apply List.filter_congr
            intro other member
            have unlike : account.username ≠ other.username := by
              intro same
              exact distinct.1 (same ▸ List.mem_map_of_mem member)
            simp [hasUsername, unlike]
          simp [keep, decoded, known, others]

/-- Records of accounts with new names are kept, every one of them. -/
theorem keep_all_encoded (rows added : List Account)
    (storable : ∀ account ∈ added, account.Storable)
    (distinct : ((rows ++ added).map Account.username).Nodup) :
    keepAll rows (added.map Account.encode) = rows ++ added := by
  rw [List.map_append, List.nodup_append] at distinct
  obtain ⟨_, addedDistinct, apart⟩ := distinct
  have new : added.filter (fun account => !hasUsername rows account.username) = added := by
    rw [List.filter_eq_self]
    intro account member
    rw [Bool.not_eq_true', ← Bool.not_eq_true, has_username_iff]
    intro known
    exact apart _ known _ (List.mem_map_of_mem member) rfl
  rw [keep_all_encoded_new rows added storable addedDistinct, new]

end Store

namespace Backing

def bytes (backing : Backing) : Bytes := backing.content.getD []

def records (backing : Backing) : List Bytes := recordsOf backing.bytes

/-- Reading succeeds and finds a whole number of records. -/
structure Whole (backing : Backing) : Prop where
  readable : backing.readFault = none
  aligned : backing.bytes.length % recordWidth = 0

end Backing

namespace Store

/-- A table as it is right after a replay that succeeded. -/
structure Opened (backing : Backing) (capacity : Nat) (store : Store) : Prop where
  backing_eq : store.backing = backing
  capacity_eq : store.capacity = capacity
  rows_eq : store.rows = keepAll [] (backing.records.take capacity)
  status_eq : store.status =
    if backing.content = none then .fresh else .loaded store.rows.length

theorem try_load_whole {backing : Backing} (capacity : Nat) (whole : backing.Whole) :
    ∃ store, tryLoad backing capacity = .ok store ∧ Opened backing capacity store := by
  have readable := whole.readable
  have aligned := whole.aligned
  cases content : backing.content with
  | none =>
      have nothing : backing.records = [] := by
        simp [Backing.records, Backing.bytes, content, recordsOf, splitRecords]
      refine ⟨⟨backing, capacity, [], .fresh, [.tableMissing backing.location]⟩, ?_,
        rfl, rfl, ?_, ?_⟩
      · simp [tryLoad, Backing.read, readable, content]
      · simp [nothing, keepAll]
      · rw [content]
        rfl
  | some bytes =>
      have rows : (replayBytes backing.location capacity bytes).1 =
          keepAll [] (backing.records.take capacity) := by
        simp [replay_bytes_rows, Backing.records, Backing.bytes, content]
      rw [Backing.bytes, content, Option.getD_some] at aligned
      simp only [tryLoad, Backing.read, readable, content, aligned, if_true]
      exact ⟨_, rfl, rfl, rfl, rows, by simp [content]⟩

theorem whole_of_try_load {backing : Backing} {capacity : Nat} {store : Store}
    (loaded : tryLoad backing capacity = .ok store) : backing.Whole := by
  unfold tryLoad Backing.read at loaded
  cases readable : backing.readFault with
  | some fault => simp [readable] at loaded
  | none =>
      refine ⟨readable, ?_⟩
      cases content : backing.content with
      | none => simp [Backing.bytes, content]
      | some bytes =>
          rw [Backing.bytes, content, Option.getD_some]
          by_contra torn
          simp [readable, content, torn] at loaded

theorem opened_of_try_load {backing : Backing} {capacity : Nat} {store : Store}
    (loaded : tryLoad backing capacity = .ok store) : Opened backing capacity store := by
  obtain ⟨other, otherLoaded, opened⟩ := try_load_whole capacity (whole_of_try_load loaded)
  rw [loaded] at otherLoaded
  cases otherLoaded
  exact opened

theorem load_opened {backing : Backing} (capacity : Nat) (whole : backing.Whole) :
    Opened backing capacity (load backing capacity) := by
  obtain ⟨store, loaded, opened⟩ := try_load_whole capacity whole
  simpa [load, loaded] using opened

/-- No name occurs twice, whatever the backing holds. -/
theorem load_nodup (backing : Backing) (capacity : Nat) :
    (load backing capacity).usernames.Nodup := by
  unfold load usernames
  cases loaded : tryLoad backing capacity with
  | error failure => simp
  | ok store =>
      simp only
      rw [(opened_of_try_load loaded).rows_eq]
      exact keep_all_nodup _ List.nodup_nil

theorem keep_length (rows : List Account) (record : Bytes) :
    (keep rows record).length ≤ rows.length + 1 := by
  unfold keep
  cases Account.decode? record with
  | none => exact Nat.le_succ _
  | some account =>
      simp only
      split
      · exact Nat.le_succ _
      · rw [List.length_append, List.length_singleton]

theorem keep_all_length (rows : List Account) (records : List Bytes) :
    (keepAll rows records).length ≤ rows.length + records.length := by
  induction records generalizing rows with
  | nil => exact Nat.le_refl _
  | cons record records ih =>
      have first := keep_length rows record
      have later := ih (keep rows record)
      change (keepAll (keep rows record) records).length ≤ _
      rw [List.length_cons]
      omega

section

variable {backing : Backing} {capacity : Nat}

/-- Where the strict opening succeeds, the lenient one gives the same table. -/
theorem load_eq_of_start {opened : Store}
    (start : opened = load backing capacity ∨ tryLoad backing capacity = .ok opened) :
    load backing capacity = opened := by
  rcases start with same | succeeded
  · exact same.symm
  · rw [load, succeeded]

theorem load_of_not_whole (broken : ¬ backing.Whole) :
    (load backing capacity).rows = [] ∧ (load backing capacity).capacity = capacity := by
  unfold load
  cases loaded : tryLoad backing capacity with
  | error failure => exact ⟨rfl, rfl⟩
  | ok store => exact absurd (whole_of_try_load loaded) broken

theorem load_backing : (load backing capacity).backing = backing := by
  unfold load
  cases loaded : tryLoad backing capacity with
  | error failure => rfl
  | ok store => exact (opened_of_try_load loaded).backing_eq

theorem load_capacity : (load backing capacity).capacity = capacity := by
  by_cases whole : backing.Whole
  · exact (load_opened capacity whole).capacity_eq
  · exact (load_of_not_whole whole).2

theorem load_room : (load backing capacity).rows.length ≤ capacity := by
  by_cases whole : backing.Whole
  · have rows := keep_all_length [] (backing.records.take capacity)
    have read := List.length_take_le capacity backing.records
    rw [(load_opened capacity whole).rows_eq]
    rw [List.length_nil] at rows
    omega
  · rw [(load_of_not_whole whole).1]
    exact Nat.zero_le _

end

end Store

end Accounts
