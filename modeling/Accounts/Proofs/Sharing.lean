import Accounts.Proofs.Opening
import Accounts.Proofs.Reopening

/-!
# Tables on one backing

A backing can be opened again while tables opened on it before are still in use. Every
table has rows of its own and appends to what all of them have appended. So the backing
holds the accepted accounts of all tables in the order of their acceptance, if appends are
all or none, and the rows of a table are those it was opened with and the accounts that it
accepted itself. On a backing that does not hold a whole number of records the accounts
are never read again.
-/

namespace Accounts

theorem Store.perform_location (store : Store) (action : Action) :
    (store.perform action).backing.location = store.backing.location := by
  cases action with
  | insert username salt passwordHash iterations =>
      have outcome := store.insertion username salt passwordHash iterations
      simp only [perform]
      generalize store.insert username salt passwordHash iterations = result at outcome ⊢
      cases outcome with
      | refused failure journal content tried kept => rfl
      | accepted journal checked room fresh => rfl
  | setSession username session =>
      have outcome := store.session_change username session
      simp only [perform]
      generalize store.setSession username session = result at outcome ⊢
      cases outcome with
      | refused journal reason => rfl
      | taken fits member => rfl
  | findByUsername username => rfl
  | findBySession session => rfl
  | appendsFail fault => rfl

/-- A backing and the tables that were opened on it, in the order of their opening. -/
structure Sharing where
  backing : Backing
  tables : List Store

namespace Sharing

inductive Action where
  | load (capacity : Nat)
  | tryLoad (capacity : Nat)
  /-- Something is done to the table at a place. -/
  | table (place : Nat) (action : Store.Action)
  deriving DecidableEq, Repr

/-- The table at a place, over the backing as all tables have left it. -/
def tableAt? (sharing : Sharing) (place : Nat) : Option Store :=
  sharing.tables[place]?.map fun table => { table with backing := sharing.backing }

def join (sharing : Sharing) (table : Store) : Sharing :=
  { sharing with tables := sharing.tables ++ [table] }

def perform (sharing : Sharing) : Action → Sharing
  | .load capacity => sharing.join (.load sharing.backing capacity)
  | .tryLoad capacity =>
      match Store.tryLoad sharing.backing capacity with
      | .ok table => sharing.join table
      | .error _ => sharing
  | .table place action =>
      match sharing.tableAt? place with
      | none => sharing
      | some table =>
          ⟨(table.perform action).backing, sharing.tables.set place (table.perform action)⟩

def run (sharing : Sharing) (actions : List Action) : Sharing := actions.foldl perform sharing

/-- The account that an action adds, with the place of the table that accepts it. -/
def accepts (sharing : Sharing) : Action → List (Nat × Account)
  | .table place action =>
      match sharing.tableAt? place with
      | none => []
      | some table => (table.accepts action).map fun account => (place, account)
  | _ => []

/-- The accounts that are accepted in a run, the first one first. -/
def accepted (sharing : Sharing) : List Action → List (Nat × Account)
  | [] => []
  | action :: actions => sharing.accepts action ++ accepted (sharing.perform action) actions

/-- The accounts that the table at a place accepted. -/
def accountsAt (place : Nat) (added : List (Nat × Account)) : List Account :=
  (added.filter fun entry => entry.1 = place).map Prod.snd

theorem accounts_at_append (place : Nat) (first second : List (Nat × Account)) :
    accountsAt place (first ++ second) = accountsAt place first ++ accountsAt place second := by
  rw [accountsAt, List.filter_append, List.map_append]
  rfl

theorem accounts_at_own (place : Nat) (accounts : List Account) :
    accountsAt place (accounts.map fun account => (place, account)) = accounts := by
  simp [accountsAt, List.filter_map, Function.comp_def]

theorem accounts_at_other {place other : Nat} (different : other ≠ place)
    (accounts : List Account) :
    accountsAt place (accounts.map fun account => (other, account)) = [] := by
  simp [accountsAt, List.filter_map, Function.comp_def, different]

/-- `after` is what `before` became while its tables accepted the accounts `added`. -/
structure Advanced (before after : Sharing) (added : List (Nat × Account)) : Prop where
  location_eq : after.backing.location = before.backing.location
  leftover_eq : after.backing.leftover = before.backing.leftover
  gained : before.backing.AllOrNone →
    before.backing.Gained after.backing (added.map Prod.snd)
  tables : ∀ place table, before.tables[place]? = some table →
    ∃ later, after.tables[place]? = some later ∧
      later.rows.map Account.credentials =
        (table.rows ++ accountsAt place added).map Account.credentials

namespace Advanced

theorem refl (sharing : Sharing) : Advanced sharing sharing [] where
  location_eq := rfl
  leftover_eq := rfl
  gained _ := .nothing rfl rfl
  tables place table found := ⟨table, found, by simp [accountsAt]⟩

theorem trans {before between after : Sharing} {first second : List (Nat × Account)}
    (earlier : Advanced before between first) (later : Advanced between after second) :
    Advanced before after (first ++ second) where
  location_eq := later.location_eq.trans earlier.location_eq
  leftover_eq := later.leftover_eq.trans earlier.leftover_eq
  gained allOrNone := by
    rw [List.map_append]
    exact (earlier.gained allOrNone).trans (later.gained (earlier.leftover_eq.trans allOrNone))
  tables := by
    intro place table found
    obtain ⟨middle, foundBetween, grown⟩ := earlier.tables place table found
    obtain ⟨last, foundAfter, grownLater⟩ := later.tables place middle foundBetween
    refine ⟨last, foundAfter, ?_⟩
    rw [grownLater, List.map_append, grown, ← List.map_append, List.append_assoc,
      accounts_at_append]

/-- One more table changes neither the backing nor the other tables. -/
theorem joined (sharing : Sharing) (table : Store) : Advanced sharing (sharing.join table) [] where
  location_eq := rfl
  leftover_eq := rfl
  gained _ := .nothing rfl rfl
  tables := by
    intro place other found
    have inside : place < sharing.tables.length := (List.getElem?_eq_some_iff.mp found).1
    refine ⟨other, ?_, by simp [accountsAt]⟩
    rw [join, List.getElem?_append_left inside, found]

/-- What one table comes to is seen by the others through the backing alone. -/
theorem performed {sharing : Sharing} {place : Nat} {table live : Store} {added : List Account}
    (found : sharing.tableAt? place = some table) (grown : Store.Grown table live added)
    (location : live.backing.location = table.backing.location) :
    Advanced sharing ⟨live.backing, sharing.tables.set place live⟩
      (added.map fun account => (place, account)) := by
  obtain ⟨held, heldThere, rfl⟩ := Option.map_eq_some_iff.mp found
  have inside : place < sharing.tables.length := (List.getElem?_eq_some_iff.mp heldThere).1
  constructor
  · exact location
  · exact grown.leftover_eq
  · rw [List.map_map]
    simpa [Function.comp_def] using grown.gained
  · intro other otherTable foundOther
    rw [List.getElem?_set]
    by_cases same : place = other
    · subst same
      obtain rfl : held = otherTable := Option.some_inj.mp (heldThere.symm.trans foundOther)
      refine ⟨live, by simp [inside], ?_⟩
      rw [accounts_at_own]
      exact grown.credentials_eq
    · refine ⟨otherTable, by rw [if_neg same, foundOther], ?_⟩
      rw [accounts_at_other same, List.append_nil]

end Advanced

theorem perform_advanced (sharing : Sharing) (action : Action) :
    Advanced sharing (sharing.perform action) (sharing.accepts action) := by
  cases action with
  | load capacity => exact .joined sharing _
  | tryLoad capacity =>
      simp only [perform, accepts]
      cases Store.tryLoad sharing.backing capacity with
      | ok table => exact .joined sharing table
      | error failure => exact .refl sharing
  | table place action =>
      simp only [perform, accepts]
      cases found : sharing.tableAt? place with
      | none => exact .refl sharing
      | some table =>
          exact .performed found (Store.grown_perform table action)
            (Store.perform_location table action)

theorem run_advanced (sharing : Sharing) (actions : List Action) :
    Advanced sharing (sharing.run actions) (sharing.accepted actions) := by
  induction actions generalizing sharing with
  | nil => exact .refl sharing
  | cons action actions ih =>
      exact (perform_advanced sharing action).trans (ih (sharing.perform action))

theorem Advanced.read {before after : Sharing} {added : List (Nat × Account)} {bytes : Bytes}
    (advanced : Advanced before after added) (allOrNone : before.backing.AllOrNone)
    (read : before.backing.read = .ok (some bytes)) :
    after.backing.read = .ok (some (bytes ++ (added.map Prod.snd).flatMap Account.encode)) := by
  obtain ⟨readable, content⟩ := Backing.read_ok_iff.mp read
  have gained := advanced.gained allOrNone
  have grown := gained.bytes_eq
  rw [Backing.bytes, Backing.bytes, content, Option.getD_some] at grown
  refine Backing.read_ok_iff.mpr ⟨gained.readFault_eq.trans readable, ?_⟩
  cases now : after.backing.content with
  | none =>
      have missing := (gained.absent_iff.mp now).1
      simp [content] at missing
  | some bytes => rw [← grown, now, Option.getD_some]

/-- A table on a torn backing starts without rows. -/
theorem load_torn {backing : Backing} {bytes : Bytes} (capacity : Nat)
    (read : backing.read = .ok (some bytes)) (torn : bytes.length % recordWidth ≠ 0) :
    (Store.load backing capacity).rows = [] ∧
      (Store.load backing capacity).status = .corrupt bytes.length := by
  have refused := Store.try_load_of_torn capacity read torn
  simp only [Store.load, refused, and_self]

theorem finds_nothing {table : Store} (empty : table.rows = []) (text : String) :
    table.findByUsername text = none ∧ table.findBySession text = none := by
  simp [Store.findByUsername, Store.findBySession, empty]

/-- A backing that does not hold a whole number of records never comes to hold one if appends to it
are all or none: the accounts that are accepted on it add whole records to its bytes. So every
opening finds it corrupt and gives no rows, and a table finds nothing but the accounts that it
accepted itself. -/
theorem torn_backing_is_never_read {start : Sharing} {bytes : Bytes}
    (allOrNone : start.backing.AllOrNone)
    (read : start.backing.read = .ok (some bytes)) (torn : bytes.length % recordWidth ≠ 0)
    (actions : List Action) :
    let now := start.run actions
    let content := bytes ++ ((start.accepted actions).map Prod.snd).flatMap Account.encode
    now.backing.read = .ok (some content) ∧
      content.length % recordWidth = bytes.length % recordWidth ∧
      ∀ capacity,
        Store.tryLoad now.backing capacity =
            .error (.corruptTable start.backing.location content.length) ∧
          (Store.load now.backing capacity).rows = [] ∧
          (Store.load now.backing capacity).status = .corrupt content.length ∧
          ∀ later,
            let opened := now.perform (.load capacity)
            let own := accountsAt now.tables.length (opened.accepted later)
            ∃ table, (opened.run later).tables[now.tables.length]? = some table ∧
              table.rows.map Account.credentials = own.map Account.credentials ∧
              (own = [] → ∀ text,
                table.findByUsername text = none ∧ table.findBySession text = none) := by
  intro now content
  have advanced := run_advanced start actions
  have reads : now.backing.read = .ok (some content) := advanced.read allOrNone read
  have length : content.length % recordWidth = bytes.length % recordWidth := by
    rw [List.length_append, encoded_length, Nat.add_mul_mod_self_right]
  have tornStill : content.length % recordWidth ≠ 0 := by rwa [length]
  refine ⟨reads, length, fun capacity => ?_⟩
  obtain ⟨empty, status⟩ := load_torn capacity reads tornStill
  have refused := Store.try_load_of_torn capacity reads tornStill
  rw [advanced.location_eq] at refused
  refine ⟨refused, empty, status, fun later => ?_⟩
  intro opened own
  have place : opened.tables[now.tables.length]? = some (Store.load now.backing capacity) :=
    List.getElem?_concat_length
  obtain ⟨table, found, grown⟩ := (run_advanced opened later).tables _ _ place
  rw [empty, List.nil_append] at grown
  refine ⟨table, found, grown, fun none text => finds_nothing ?_ text⟩
  rw [show accountsAt now.tables.length (opened.accepted later) = [] from none] at grown
  exact List.map_eq_nil_iff.mp grown

/-- A single byte, which is no record. -/
def tornSharing : Sharing := ⟨.sound "users" (some [7]), []⟩

/-- An account is inserted again after the table was opened again, since nothing of it is left. -/
def aliceTwice : List Action :=
  [.load 2, .table 0 Store.aliceInserted, .tryLoad 2, .load 2, .table 1 Store.aliceInserted]

theorem alice_is_never_read :
    let now := tornSharing.run aliceTwice
    let opened := now.perform (.load 2)
    tornSharing.backing.AllOrNone ∧ tornSharing.backing.read = .ok (some [7]) ∧
      ([7] : Bytes).length % recordWidth ≠ 0 ∧
      (tornSharing.accepted aliceTwice).map (fun entry => (entry.1, entry.2.username)) =
        [(0, "alice"), (1, "alice")] ∧
      Store.tryLoad now.backing 2 = .error (.corruptTable "users" 299) ∧
      (Store.load now.backing 2).rows = [] ∧
      ∃ table, (opened.run [.table 1 (.setSession "alice" "token")]).tables[2]? = some table ∧
        table.findByUsername "alice" = none ∧ table.findBySession "token" = none := by
  intro now opened
  have allOrNone : tornSharing.backing.AllOrNone := rfl
  have read : tornSharing.backing.read = .ok (some [7]) := rfl
  have torn : ([7] : Bytes).length % recordWidth ≠ 0 := by decide
  have twice : (tornSharing.accepted aliceTwice).map (fun entry => (entry.1, entry.2.username)) =
      [(0, "alice"), (1, "alice")] := by decide +kernel
  have size : ([7] ++ ((tornSharing.accepted aliceTwice).map Prod.snd).flatMap
      Account.encode).length = 299 := by decide +kernel
  have tables : now.tables.length = 2 := by decide +kernel
  have unchanged : opened.accepted [.table 1 (.setSession "alice" "token")] = [] := by
    decide +kernel
  obtain ⟨_, _, openings⟩ := torn_backing_is_never_read allOrNone read torn aliceTwice
  obtain ⟨refused, empty, _, later⟩ := openings 2
  obtain ⟨table, found, _, nothing⟩ := later [.table 1 (.setSession "alice" "token")]
  rw [size] at refused
  rw [tables] at found
  have unseen := nothing (by rw [unchanged]; rfl)
  exact ⟨allOrNone, read, torn, twice, refused, empty, table, found, (unseen "alice").1,
    (unseen "token").2⟩

end Sharing

end Accounts
