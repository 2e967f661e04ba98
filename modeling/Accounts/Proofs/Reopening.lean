import Accounts.Proofs.Table

/-!
# Opening a table again

Where appends are all or none, the backing of a table that ran for a while holds the
records it was opened with and behind them the accepted accounts. Opened again with room
for all of them, it gives the same table with the sessions of the first opening. A
capacity counts the records that are read, skipped ones included, while an insertion
counts rows alone; so with the same capacity again the accounts whose records lie beyond
it are gone, and those are the only ones.
-/

namespace Accounts

namespace Backing.Gained

variable {before after : Backing} {added : List Account}

theorem whole_iff (gained : before.Gained after added) : after.Whole ↔ before.Whole := by
  have same : after.bytes.length % recordWidth = before.bytes.length % recordWidth := by
    rw [gained.bytes_eq, List.length_append, encoded_length, Nat.add_mul_mod_self_right]
  constructor
  · rintro ⟨readable, aligned⟩
    exact ⟨gained.readFault_eq.symm.trans readable, same.symm.trans aligned⟩
  · rintro ⟨readable, aligned⟩
    exact ⟨gained.readFault_eq.trans readable, same.trans aligned⟩

theorem whole (gained : before.Gained after added) (whole : before.Whole) : after.Whole :=
  gained.whole_iff.mpr whole

theorem records_eq (gained : before.Gained after added) (whole : before.Whole) :
    after.records = before.records ++ added.map Account.encode := by
  rw [records, gained.bytes_eq, records_of_append_encoded _ whole.aligned]
  rfl

end Backing.Gained

namespace Store

theorem find_of_mem {rows : List Account} {account : Account}
    (distinct : (rows.map Account.username).Nodup) (member : account ∈ rows) :
    rows.find? (fun row => row.username == account.username) = some account := by
  induction rows with
  | nil => simp at member
  | cons row rows ih =>
      rw [List.map_cons, List.nodup_cons] at distinct
      rcases List.mem_cons.mp member with rfl | later
      · simp
      · have other : row.username ≠ account.username := by
          intro same
          exact distinct.1 (same ▸ List.mem_map_of_mem later)
        rw [List.find?_cons_of_neg (by simpa using other)]
        exact ih distinct.2 later

theorem find_eq_none_of_not_mem {rows : List Account} {username : String}
    (absent : username ∉ rows.map Account.username) :
    rows.find? (fun row => row.username == username) = none := by
  rw [List.find?_eq_none]
  intro row member same
  exact absent (List.mem_map.mpr ⟨row, member, by simpa using same⟩)

section

variable {backing : Backing} {capacity : Nat} {opened live : Store} {added : List Account}

theorem Grown.rows_nodup (grown : Grown opened live added) (distinct : opened.usernames.Nodup) :
    ((opened.rows ++ added).map Account.username).Nodup := by
  have names := grown.distinct distinct
  rwa [grown.usernames_eq, usernames, ← List.map_append] at names

theorem opened_nodup (start : Opened backing capacity opened) : opened.usernames.Nodup := by
  rw [usernames, start.rows_eq]
  exact keep_all_nodup _ List.nodup_nil

theorem Opened.gained (start : Opened backing capacity opened) (allOrNone : backing.AllOrNone)
    (grown : Grown opened live added) : backing.Gained live.backing added := by
  have same := start.backing_eq
  exact same ▸ grown.gained (same ▸ allOrNone)

/-- The rows of a second opening. Both openings have to read the same of the records that
were there first. -/
theorem Opened.again {again : Nat} {reopened : Store} (start : Opened backing capacity opened)
    (whole : backing.Whole) (grown : Grown opened live added)
    (gained : backing.Gained live.backing added)
    (restart : Opened live.backing again reopened)
    (same : backing.records.take again = backing.records.take capacity) :
    reopened.rows = opened.rows ++ added.take (again - backing.records.length) := by
  let kept := added.take (again - backing.records.length)
  have distinct := grown.rows_nodup (opened_nodup start)
  have keptDistinct : ((opened.rows ++ kept).map Account.username).Nodup := by
    refine distinct.sublist (List.Sublist.map _ ?_)
    exact (List.take_sublist _ _).append_left _
  have keptStorable : ∀ account ∈ kept, account.Storable := by
    intro account member
    exact (grown.enrolled account (List.mem_of_mem_take member)).storable
  rw [restart.rows_eq, gained.records_eq whole, List.take_append, same, keep_all_append,
    ← start.rows_eq, ← List.map_take, keep_all_encoded _ _ keptStorable keptDistinct]

end

/-- Whatever was done to a table, opening its backing again with room for all records gives the live
table back if appends are all or none: the same accounts in the same order, those inserted meanwhile
without a session and the others with the session they were first loaded with. -/
theorem reopened_table_mirrors_live {backing : Backing} {capacity again : Nat}
    (actions : List Action) (whole : backing.Whole) (allOrNone : backing.AllOrNone)
    (room : backing.records.length ≤ capacity)
    (enough : backing.records.length + ((load backing capacity).accepted actions).length ≤ again) :
    let opened := load backing capacity
    let live := opened.run actions
    let added := opened.accepted actions
    let reopened := load live.backing again
    reopened.rows.map Account.credentials = live.rows.map Account.credentials ∧
      reopened.rows = opened.rows ++ added ∧
      (∀ account ∈ added, account.session = "") ∧
      reopened.status =
        if backing.content = none ∧ added = [] then .fresh else .loaded live.rows.length := by
  intro opened live added reopened
  have start : Opened backing capacity opened := load_opened capacity whole
  have grown : Grown opened live added := grown_run opened actions
  have gained : backing.Gained live.backing added := start.gained allOrNone grown
  have restart : Opened live.backing again reopened := load_opened again (gained.whole whole)
  have same : backing.records.take again = backing.records.take capacity := by
    rw [List.take_of_length_le room, List.take_of_length_le (by omega)]
  have all : added.take (again - backing.records.length) = added := by
    apply List.take_of_length_le
    change backing.records.length + added.length ≤ again at enough
    omega
  have rows : reopened.rows = opened.rows ++ added := by
    rw [start.again whole grown gained restart same, all]
  refine ⟨?_, rows, fun account member => (grown.enrolled account member).signedOut, ?_⟩
  · rw [rows, grown.credentials_eq]
  · rw [restart.status_eq, grown.length_eq, rows, List.length_append]
    simp only [gained.absent_iff]

/-- A record without a readable name in front of an account that is signed in. -/
def mixedBacking : Backing :=
  .sound "users" (some (List.replicate 149 0xff ++
    Account.encode ⟨"eve", Vector.replicate 16 1, Vector.replicate 32 2, 1000, "token"⟩))

/-- One insertion that succeeds and one that cannot be appended, and a session for either
account. -/
def mixedActions : List Action :=
  [.insert "bob" (Vector.replicate 16 3) (Vector.replicate 32 4) 2000,
    .appendsFail (some .notDirectory),
    .insert "carol" (Vector.replicate 16 5) (Vector.replicate 32 6) 2000,
    .setSession "eve" "", .setSession "bob" "fresh"]

theorem mixed_table_mirrors_live :
    mixedBacking.Whole ∧ mixedBacking.AllOrNone ∧ mixedBacking.records.length ≤ 2 ∧
      mixedBacking.records.length + ((load mixedBacking 2).accepted mixedActions).length ≤ 3 ∧
      (load ((load mixedBacking 2).run mixedActions).backing 3).rows.map Account.credentials =
        ((load mixedBacking 2).run mixedActions).rows.map Account.credentials := by
  have whole : mixedBacking.Whole := ⟨rfl, by decide +kernel⟩
  have room : mixedBacking.records.length ≤ 2 := by decide +kernel
  have enough : mixedBacking.records.length +
      ((load mixedBacking 2).accepted mixedActions).length ≤ 3 := by decide +kernel
  have mirrored := reopened_table_mirrors_live mixedActions whole rfl room enough
  exact ⟨whole, rfl, room, enough, mirrored.1⟩

theorem find_by_username_of_mem {store : Store} {account : Account}
    (distinct : store.usernames.Nodup) (named : account.username ≠ "")
    (member : account ∈ store.rows) :
    store.findByUsername account.username = some account := by
  rw [findByUsername, if_neg (by simpa using named), find_of_mem distinct member]

theorem find_by_username_eq_none {store : Store} {username : String}
    (absent : username ∉ store.usernames) : store.findByUsername username = none := by
  unfold findByUsername
  split
  · rfl
  · exact find_eq_none_of_not_mem absent

/-- An accepted account survives being opened again with the same capacity exactly when its record
is among the first ones that the capacity allows to be read. -/
theorem Opened.find_accepted {backing : Backing} {capacity : Nat} {opened live reopened : Store}
    {added earlier later : List Account} {account : Account}
    (start : Opened backing capacity opened) (whole : backing.Whole)
    (grown : Grown opened live added) (gained : backing.Gained live.backing added)
    (restart : Opened live.backing capacity reopened)
    (place : added = earlier ++ account :: later) :
    reopened.findByUsername account.username =
      if backing.records.length + earlier.length < capacity then some account else none := by
  have rows := start.again whole grown gained restart rfl
  have distinct := grown.rows_nodup (opened_nodup start)
  have enrolled : account.Enrolled := grown.enrolled account (by simp [place])
  split
  · rename_i read
    apply find_by_username_of_mem (opened_nodup restart)
    · exact (check_username_ok.mp enrolled.checked).1
    · rw [rows, place, List.take_append, List.take_cons (by omega)]
      simp
  · rename_i unread
    apply find_by_username_eq_none
    have cut : added.take (capacity - backing.records.length) =
        earlier.take (capacity - backing.records.length) := by
      rw [place, List.take_append_of_le_length (by omega)]
    have names : ((opened.rows ++ earlier) ++ account :: later).map Account.username |>.Nodup := by
      rwa [place, ← List.append_assoc] at distinct
    rw [List.map_append, List.nodup_append] at names
    rw [usernames, rows, cut]
    intro member
    have shorter : (opened.rows ++ earlier.take (capacity - backing.records.length)).Sublist
        (opened.rows ++ earlier) := (List.take_sublist _ _).append_left _
    exact names.2.2 _ ((shorter.map _).subset member) account.username (by simp) rfl

/-- Opened again with the same capacity, a table has those of the accepted accounts whose records
come within the capacity, and has lost the others, provided that appends are all or none. So all of
them survive just if the records that were there first leave room for every one. -/
theorem accepted_accounts_reopen_within_capacity {backing : Backing} {capacity : Nat}
    {opened : Store} (loaded : tryLoad backing capacity = .ok opened)
    (allOrNone : backing.AllOrNone) (actions : List Action) :
    ∃ reopened, tryLoad (opened.run actions).backing capacity = .ok reopened ∧
      (∀ earlier account later, opened.accepted actions = earlier ++ account :: later →
        reopened.findByUsername account.username =
          if backing.records.length + earlier.length < capacity then some account else none) ∧
      ((∀ account ∈ opened.accepted actions,
          reopened.findByUsername account.username = some account) ↔
        opened.accepted actions = [] ∨
          backing.records.length + (opened.accepted actions).length ≤ capacity) := by
  have whole := whole_of_try_load loaded
  have start := opened_of_try_load loaded
  have grown := grown_run opened actions
  have gained := start.gained allOrNone grown
  obtain ⟨reopened, reloaded, restart⟩ := try_load_whole capacity (gained.whole whole)
  have found : ∀ earlier account later, opened.accepted actions = earlier ++ account :: later →
      reopened.findByUsername account.username =
        if backing.records.length + earlier.length < capacity then some account else none := by
    intro earlier account later place
    exact start.find_accepted whole grown gained restart place
  refine ⟨reopened, reloaded, found, ?_⟩
  generalize opened.accepted actions = added at found
  constructor
  · intro all
    rcases List.eq_nil_or_concat added with empty | ⟨earlier, last, place⟩
    · exact .inl empty
    · have survives := all last (by simp [place])
      rw [found earlier last [] (by simpa using place)] at survives
      have read : backing.records.length + earlier.length < capacity := by
        by_contra unread
        simp [unread] at survives
      right
      simp only [place, List.concat_eq_append, List.length_append, List.length_singleton]
      omega
  · intro room account member
    obtain ⟨earlier, later, place⟩ := List.append_of_mem member
    have read : backing.records.length + earlier.length < capacity := by
      rcases room with empty | enough
      · simp [empty] at member
      · simp only [place, List.length_append, List.length_cons] at enough
        omega
    rw [found earlier account later place, if_pos read]

/-- A single record, without a readable name. -/
def unreadableBacking : Backing := .sound "users" (some (List.replicate 149 0xff))

def aliceInserted : Action :=
  .insert "alice" (Vector.replicate 16 1) (Vector.replicate 32 2) 1000

/-- With room for one row the insertion succeeds, and with room for one record the account is not
read again. -/
theorem accepted_account_is_lost :
    tryLoad unreadableBacking 1 = .ok (load unreadableBacking 1) ∧
      (load unreadableBacking 1).accepted [aliceInserted] =
        [Account.new "alice" (Vector.replicate 16 1) (Vector.replicate 32 2) 1000] ∧
      (load ((load unreadableBacking 1).run [aliceInserted]).backing 1).findByUsername "alice" =
        none := by
  decide +kernel

theorem mixed_table_loses_bob :
    tryLoad mixedBacking 2 = .ok (load mixedBacking 2) ∧
      ∃ reopened, tryLoad ((load mixedBacking 2).run mixedActions).backing 2 = .ok reopened ∧
        reopened.findByUsername "bob" = none := by
  have loaded : tryLoad mixedBacking 2 = .ok (load mixedBacking 2) := by decide +kernel
  have added : (load mixedBacking 2).accepted mixedActions =
      [] ++ Account.new "bob" (Vector.replicate 16 3) (Vector.replicate 32 4) 2000 :: [] := by
    decide +kernel
  have full : ¬ mixedBacking.records.length + ([] : List Account).length < 2 := by decide +kernel
  obtain ⟨reopened, reloaded, found, _⟩ :=
    accepted_accounts_reopen_within_capacity loaded rfl mixedActions
  have bob := found _ _ _ added
  rw [if_neg full] at bob
  exact ⟨loaded, reopened, reloaded, bob⟩

end Store

end Accounts
