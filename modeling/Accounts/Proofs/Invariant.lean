import Accounts.Proofs.Reopening

/-!
# What holds of a table at all times

However a table was opened and whatever was done to it, its rows are within its
capacity and differ in their names. They are never dropped, moved or changed but
for their sessions, and a session is the one that was loaded or one that fits a
record. So a lookup by name finds the one row of that name.
-/

namespace Accounts.Store

/-- Only an insertion adds a row, and it looks for room first. -/
theorem perform_room {store : Store} (action : Action)
    (room : store.rows.length ≤ store.capacity) :
    (store.perform action).rows.length ≤ (store.perform action).capacity := by
  have capacity := (grown_perform store action).capacity_eq
  have change := store.row_change action
  rw [capacity]
  generalize (store.perform action).rows = rows at change ⊢
  cases change with
  | kept => exact room
  | added username salt passwordHash iterations checked free fresh =>
      rw [List.length_append, List.length_singleton]
      exact free
  | replaced username session fits member =>
      have same := congrArg List.length (replace_session_credentials username session store.rows)
      rw [List.length_map, List.length_map] at same
      rw [same]
      exact room

/-- A row that an action leaves was at its place before, or its session fits a record. -/
theorem perform_row {store : Store} {action : Action} {index : Nat} {row : Account}
    (place : (store.perform action).rows[index]? = some row) :
    store.rows[index]? = some row ∨ row.session.utf8ByteSize ≤ maxSessionBytes := by
  have change := store.row_change action
  generalize (store.perform action).rows = rows at change place
  cases change with
  | kept => exact .inl place
  | added username salt passwordHash iterations checked free fresh =>
      rw [List.getElem?_append] at place
      split at place
      · exact .inl place
      · have added := List.mem_of_getElem? place
        rw [List.mem_singleton] at added
        have signedOut : ("" : String).utf8ByteSize ≤ maxSessionBytes := by decide
        rw [added]
        exact .inr signedOut
  | replaced username session fits member =>
      rcases get_replace_session place with same | ⟨_, changed⟩
      · exact .inl same
      · exact .inr (changed ▸ fits)

/-- What `live` keeps of the table `opened` that it has grown from. -/
structure Tended (opened live : Store) : Prop where
  room : live.rows.length ≤ live.capacity
  distinct : live.usernames.Nodup
  sessions : ∀ (index : Nat) (row : Account), live.rows[index]? = some row →
    opened.rows[index]?.map Account.session = some row.session ∨
      row.session.utf8ByteSize ≤ maxSessionBytes

theorem tended_load (backing : Backing) (capacity : Nat) :
    Tended (load backing capacity) (load backing capacity) where
  room := by
    rw [load_capacity]
    exact load_room
  distinct := load_nodup backing capacity
  sessions := by
    intro index row place
    rw [place]
    exact .inl rfl

theorem Tended.perform {opened live : Store} (tended : Tended opened live) (action : Action) :
    Tended opened (live.perform action) where
  room := perform_room action tended.room
  distinct := (grown_perform live action).distinct tended.distinct
  sessions := by
    intro index row place
    rcases perform_row place with before | fits
    · exact tended.sessions index row before
    · exact .inr fits

theorem Tended.run {opened live : Store} (tended : Tended opened live) (actions : List Action) :
    Tended opened (live.run actions) := by
  -- `opened` stays where it is; the table in between moves on
  induction actions generalizing live with
  | nil => exact tended
  | cons action actions ih => exact ih (tended.perform action)

theorem Grown.prefixes {opened live : Store} {added : List Account}
    (grown : Grown opened live added) :
    opened.usernames <+: live.usernames ∧
      opened.rows.map Account.credentials <+: live.rows.map Account.credentials := by
  rw [grown.usernames_eq, grown.credentials_eq, List.map_append]
  exact ⟨List.prefix_append _ _, List.prefix_append _ _⟩

theorem find_by_username_unique {store : Store} {username : String}
    (distinct : store.usernames.Nodup) (given : username ≠ "")
    (member : username ∈ store.usernames) :
    ∃ row ∈ store.rows, store.findByUsername username = some row ∧
      ∀ other ∈ store.rows, other.username = username ↔ other = row := by
  obtain ⟨row, place, rfl⟩ := List.mem_map.mp member
  have found := find_by_username_of_mem distinct given place
  refine ⟨row, place, found, ?_⟩
  intro other otherPlace
  constructor
  · intro same
    exact List.inj_on_of_nodup_map distinct otherPlace place same
  · rintro rfl
    rfl

/-- A table that was opened in either way, at an earlier and at a later point of a run. -/
theorem table_is_tended {backing : Backing} {capacity : Nat} {opened : Store}
    (start : opened = load backing capacity ∨ tryLoad backing capacity = .ok opened)
    (earlier later : List Action) :
    let between := opened.run earlier
    let live := between.run later
    (live.capacity = capacity ∧ live.rows.length ≤ capacity) ∧
      live.usernames.Nodup ∧
      between.usernames <+: live.usernames ∧
      between.rows.map Account.credentials <+: live.rows.map Account.credentials ∧
      (∀ (index : Nat) (row : Account), live.rows[index]? = some row →
        opened.rows[index]?.map Account.session = some row.session ∨
          row.session.utf8ByteSize ≤ maxSessionBytes) ∧
      ∀ username, username ≠ "" →
        (username ∈ live.usernames →
          ∃ row ∈ live.rows, live.findByUsername username = some row ∧
            ∀ other ∈ live.rows, other.username = username ↔ other = row) ∧
        (username ∉ live.usernames → live.findByUsername username = none) := by
  intro between live
  have loaded := load_eq_of_start start
  have tended : Tended opened live := by
    have fresh := tended_load backing capacity
    rw [loaded] at fresh
    exact (fresh.run earlier).run later
  have capacities : live.capacity = capacity := by
    rw [(grown_run between later).capacity_eq, (grown_run opened earlier).capacity_eq, ← loaded,
      load_capacity]
  obtain ⟨names, credentials⟩ := (grown_run between later).prefixes
  refine ⟨⟨capacities, capacities ▸ tended.room⟩, tended.distinct, names, credentials,
    tended.sessions, ?_⟩
  intro username given
  exact ⟨find_by_username_unique tended.distinct given, find_by_username_eq_none⟩

/-- A session of 65 bytes, which no zero byte ends, and the same account once more. -/
def crowdedBacking : Backing :=
  let eve :=
    (Account.encode ⟨"eve", Vector.replicate 16 1, Vector.replicate 32 2, 1000, ""⟩).take 84
  .sound "users" (some (eve ++ List.replicate 65 0x61 ++ eve ++ List.replicate 65 0))

def bobInserted : Action := .insert "bob" (Vector.replicate 16 3) (Vector.replicate 32 4) 2000

/-- The first insertion of bob cannot be appended, the second can. -/
def crowdedActions : List Action :=
  [.setSession "bob" "early", .appendsFail (some .notDirectory), bobInserted, .appendsFail none,
    bobInserted]

theorem crowded_table_is_tended :
    let opened := load crowdedBacking 2
    let between := opened.run crowdedActions
    let live := between.run [.setSession "bob" "late", aliceInserted]
    tryLoad crowdedBacking 2 = .ok opened ∧
      opened.rows.map (fun row => row.session.utf8ByteSize) = [65] ∧
      between.usernames <+: live.usernames ∧ live.rows.length ≤ 2 ∧
      ∃ row ∈ live.rows, live.findByUsername "bob" = some row := by
  intro opened between live
  have loaded : tryLoad crowdedBacking 2 = .ok opened := by decide +kernel
  have long : opened.rows.map (fun row => row.session.utf8ByteSize) = [65] := by decide +kernel
  have bob : "bob" ∈ live.usernames := by decide +kernel
  obtain ⟨⟨_, room⟩, _, names, _, _, lookups⟩ :=
    table_is_tended (.inr loaded) crowdedActions [.setSession "bob" "late", aliceInserted]
  obtain ⟨row, place, found, _⟩ := (lookups "bob" (by decide)).1 bob
  exact ⟨loaded, long, names, room, row, place, found⟩

end Accounts.Store
