import Accounts.Proofs.Insertion

/-!
# Runs of a table

A table is driven by insertions, session changes and lookups, while appends may
start or cease to fail at any time. However long such a run is, its table is the
one that was opened, with the accepted accounts behind it: the rows differ from
that in their sessions alone, and where appends are all or none, the backing has
grown by exactly the records of the accepted accounts.
-/

namespace Accounts

namespace Account

/-- All of an account but its session: the part that never changes. -/
def credentials (account : Account) : Account := { account with session := "" }

/-- An account as an insertion makes it. -/
structure Enrolled (account : Account) : Prop where
  checked : checkUsername account.username = .ok ()
  signedOut : account.session = ""

theorem Enrolled.storable {account : Account} (enrolled : account.Enrolled) : account.Storable := by
  have fresh := storable_new account.salt account.passwordHash account.iterations enrolled.checked
  rwa [new, ← enrolled.signedOut] at fresh

end Account

namespace Backing

/-- `after` is `before` with the records of the accounts `added` behind its bytes. -/
structure Gained (before after : Backing) (added : List Account) : Prop where
  readFault_eq : after.readFault = before.readFault
  bytes_eq : after.bytes = before.bytes ++ added.flatMap Account.encode
  absent_iff : after.content = none ↔ before.content = none ∧ added = []

namespace Gained

theorem nothing {before after : Backing} (readFault : after.readFault = before.readFault)
    (content : after.content = before.content) : before.Gained after [] where
  readFault_eq := readFault
  bytes_eq := by simp [bytes, content]
  absent_iff := by simp [content]

theorem record {before after : Backing} {account : Account}
    (readFault : after.readFault = before.readFault)
    (content : after.content = some (before.bytes ++ account.encode)) :
    before.Gained after [account] where
  readFault_eq := readFault
  bytes_eq := by simp [bytes, content]
  absent_iff := by simp [content]

theorem trans {before between after : Backing} {first second : List Account}
    (earlier : before.Gained between first) (later : between.Gained after second) :
    before.Gained after (first ++ second) where
  readFault_eq := later.readFault_eq.trans earlier.readFault_eq
  bytes_eq := by
    rw [later.bytes_eq, earlier.bytes_eq, List.append_assoc, List.flatMap_append]
  absent_iff := by
    rw [later.absent_iff, earlier.absent_iff, List.append_eq_nil_iff, and_assoc]

end Gained

end Backing

namespace Store

inductive Action where
  | insert (username : String) (salt : Salt) (passwordHash : PasswordHash) (iterations : UInt32)
  | setSession (username session : String)
  | findByUsername (username : String)
  | findBySession (session : String)
  | appendsFail (fault : Option Fault)
  deriving DecidableEq, Repr

def perform (store : Store) : Action → Store
  | .insert username salt passwordHash iterations =>
      (store.insert username salt passwordHash iterations).2
  | .setSession username session => (store.setSession username session).2
  | .findByUsername _ => store
  | .findBySession _ => store
  | .appendsFail appendFault => { store with backing := { store.backing with appendFault } }

def run (store : Store) (actions : List Action) : Store := actions.foldl perform store

/-- The account that an action adds, if it is an insertion that succeeds. -/
def accepts (store : Store) : Action → List Account
  | .insert username salt passwordHash iterations =>
      match (store.insert username salt passwordHash iterations).1 with
      | .ok () => [Account.new username salt passwordHash iterations]
      | .error _ => []
  | _ => []

/-- The accounts whose insertion succeeds in a run, the first one first. -/
def accepted (store : Store) : List Action → List Account
  | [] => []
  | action :: actions => store.accepts action ++ accepted (store.perform action) actions

inductive Insertion (store : Store) (account : Account) : Except Failure Unit × Store → Prop where
  | refused (failure : Failure) (journal : List Event) (content : Option Bytes) (tried : Bool)
      (kept : store.backing.AllOrNone → content = store.backing.content) :
      Insertion store account
        (.error failure, { store with journal, backing := { store.backing with content, tried } })
  | accepted (journal : List Event) (checked : checkUsername account.username = .ok ())
      (room : store.rows.length < store.capacity)
      (fresh : account.username ∉ store.usernames) :
      Insertion store account
        (.ok (), { store with
          journal
          rows := store.rows ++ [account]
          backing := { store.backing with
            content := some (store.backing.bytes ++ account.encode)
            tried := true } })

theorem insertion (store : Store) (username : String) (salt : Salt) (passwordHash : PasswordHash)
    (iterations : UInt32) :
    Insertion store (Account.new username salt passwordHash iterations)
      (store.insert username salt passwordHash iterations) := by
  cases reason : (store.refusals username).findSome? id with
  | some failure =>
      obtain ⟨left, journal, refused⟩ :=
        store.insert_refused salt passwordHash iterations reason
      obtain ⟨content, tried, same, kept, _⟩ := left.eq_with
      rw [refused, same]
      exact .refused failure journal content tried kept
  | none =>
      obtain ⟨checked, room, fresh, _⟩ := refusals_eq_none_iff.mp reason
      obtain ⟨journal, inserted⟩ := store.insert_accepted salt passwordHash iterations reason
      rw [inserted]
      exact .accepted journal checked room fresh

inductive SessionChange (store : Store) (username session : String) : Bool × Store → Prop where
  | refused (journal : List Event)
      (reason : maxSessionBytes < session.utf8ByteSize ∨ username ∉ store.usernames) :
      SessionChange store username session (false, { store with journal })
  | taken (fits : session.utf8ByteSize ≤ maxSessionBytes) (member : username ∈ store.usernames) :
      SessionChange store username session
        (true, { store with rows := replaceSession username session store.rows })

theorem session_change (store : Store) (username session : String) :
    SessionChange store username session (store.setSession username session) := by
  unfold setSession
  split_ifs with long present
  · exact .refused _ (.inl long)
  · exact .taken (Nat.le_of_not_lt long) (has_username_iff.mp present)
  · refine .refused store.journal (.inr ?_)
    rwa [has_username_iff] at present

theorem replace_session_credentials (username session : String) (rows : List Account) :
    (replaceSession username session rows).map Account.credentials =
      rows.map Account.credentials := by
  induction rows with
  | nil => rfl
  | cons row rows ih =>
      simp only [replaceSession]
      split
      · rfl
      · rw [List.map_cons, List.map_cons, ih]

theorem replace_session_of_not_mem {username session : String} {rows : List Account}
    (absent : username ∉ rows.map Account.username) :
    replaceSession username session rows = rows := by
  induction rows with
  | nil => rfl
  | cons row rows ih =>
      rw [List.map_cons, List.mem_cons, not_or] at absent
      rw [replaceSession, if_neg (Ne.symm absent.1), ih absent.2]

theorem find_replace_session (username session name : String) (rows : List Account) :
    (replaceSession username session rows).find? (fun row => row.username == name) =
      (rows.find? fun row => row.username == name).map fun row =>
        if name = username then { row with session } else row := by
  induction rows with
  | nil => rfl
  | cons row rows ih =>
      rw [replaceSession]
      by_cases named : row.username = name
      · subst named
        split <;> simp_all
      · split
        · rename_i same
          have other : name ≠ username := same ▸ Ne.symm named
          simp [named, other]
        · simp [named, ih]

theorem get_replace_session {username session : String} {rows : List Account} {index : Nat}
    {row : Account} (place : (replaceSession username session rows)[index]? = some row) :
    rows[index]? = some row ∨ row.username = username ∧ row.session = session := by
  induction rows generalizing index with
  | nil => exact .inl place
  | cons first rows ih =>
      rw [replaceSession] at place
      split at place
      · rename_i named
        cases index with
        | zero =>
            obtain rfl : { first with session } = row := Option.some_inj.mp place
            exact .inr ⟨named, rfl⟩
        | succ index => exact .inl place
      · cases index with
        | zero => exact .inl place
        | succ index => exact ih place

theorem mem_replace_session {username session : String} {rows : List Account} {row : Account}
    (member : row ∈ replaceSession username session rows) :
    row ∈ rows ∨ row.username = username ∧ row.session = session := by
  obtain ⟨index, place⟩ := List.mem_iff_getElem?.mp member
  rcases get_replace_session place with before | changed
  · exact .inl (List.mem_of_getElem? before)
  · exact .inr changed

/-- What an action can do to the rows. -/
inductive RowChange (store : Store) : Action → List Account → Prop where
  | kept (action : Action) : RowChange store action store.rows
  | added (username : String) (salt : Salt) (passwordHash : PasswordHash) (iterations : UInt32)
      (checked : checkUsername username = .ok ()) (room : store.rows.length < store.capacity)
      (fresh : username ∉ store.usernames) :
      RowChange store (.insert username salt passwordHash iterations)
        (store.rows ++ [Account.new username salt passwordHash iterations])
  | replaced (username session : String) (fits : session.utf8ByteSize ≤ maxSessionBytes)
      (member : username ∈ store.usernames) :
      RowChange store (.setSession username session) (replaceSession username session store.rows)

theorem row_change (store : Store) (action : Action) :
    RowChange store action (store.perform action).rows := by
  cases action with
  | insert username salt passwordHash iterations =>
      have outcome := store.insertion username salt passwordHash iterations
      simp only [perform]
      generalize store.insert username salt passwordHash iterations = result at outcome ⊢
      cases outcome with
      | refused failure journal content tried kept => exact .kept _
      | accepted journal checked room fresh => exact .added _ _ _ _ checked room fresh
  | setSession username session =>
      have outcome := store.session_change username session
      simp only [perform]
      generalize store.setSession username session = result at outcome ⊢
      cases outcome with
      | refused journal reason => exact .kept _
      | taken fits member => exact .replaced username session fits member
  | findByUsername username => exact .kept _
  | findBySession session => exact .kept _
  | appendsFail fault => exact .kept _

theorem usernames_of_credentials {rows others : List Account}
    (same : rows.map Account.credentials = others.map Account.credentials) :
    rows.map Account.username = others.map Account.username := by
  have names := congrArg (List.map Account.username) same
  rwa [List.map_map, List.map_map] at names

/-- `live` is what `opened` became by accepting the accounts `added`. -/
structure Grown (opened live : Store) (added : List Account) : Prop where
  capacity_eq : live.capacity = opened.capacity
  leftover_eq : live.backing.leftover = opened.backing.leftover
  gained : opened.backing.AllOrNone → opened.backing.Gained live.backing added
  credentials_eq : live.rows.map Account.credentials =
    (opened.rows ++ added).map Account.credentials
  enrolled : ∀ account ∈ added, account.Enrolled
  distinct : opened.usernames.Nodup → live.usernames.Nodup

namespace Grown

/-- Nothing was accepted. A failing append can have changed the backing. -/
theorem refused {opened live : Store} (capacity : live.capacity = opened.capacity)
    (leftover : live.backing.leftover = opened.backing.leftover)
    (readFault : live.backing.readFault = opened.backing.readFault)
    (content : opened.backing.AllOrNone → live.backing.content = opened.backing.content)
    (credentials : live.rows.map Account.credentials = opened.rows.map Account.credentials) :
    Grown opened live [] where
  capacity_eq := capacity
  leftover_eq := leftover
  gained allOrNone := .nothing readFault (content allOrNone)
  credentials_eq := by rw [credentials, List.append_nil]
  enrolled := by simp
  distinct := by
    intro distinct
    rwa [usernames, usernames_of_credentials credentials]

theorem unchanged {opened live : Store} (capacity : live.capacity = opened.capacity)
    (backing : live.backing = opened.backing)
    (credentials : live.rows.map Account.credentials = opened.rows.map Account.credentials) :
    Grown opened live [] :=
  .refused capacity (by rw [backing]) (by rw [backing]) (fun _ => by rw [backing]) credentials

theorem inserted {opened live : Store} {account : Account}
    (capacity : live.capacity = opened.capacity)
    (leftover : live.backing.leftover = opened.backing.leftover)
    (readFault : live.backing.readFault = opened.backing.readFault)
    (content : live.backing.content = some (opened.backing.bytes ++ account.encode))
    (rows : live.rows = opened.rows ++ [account]) (enrolled : account.Enrolled)
    (fresh : account.username ∉ opened.usernames) : Grown opened live [account] where
  capacity_eq := capacity
  leftover_eq := leftover
  gained _ := .record readFault content
  credentials_eq := by rw [rows]
  enrolled := by
    intro other member
    rwa [List.mem_singleton.mp member]
  distinct := by
    intro distinct
    rw [usernames, rows, List.map_append, List.map_singleton, List.nodup_append_comm]
    exact List.nodup_cons.mpr ⟨fresh, distinct⟩

theorem trans {opened between live : Store} {first second : List Account}
    (earlier : Grown opened between first) (later : Grown between live second) :
    Grown opened live (first ++ second) where
  capacity_eq := later.capacity_eq.trans earlier.capacity_eq
  leftover_eq := later.leftover_eq.trans earlier.leftover_eq
  gained allOrNone :=
    (earlier.gained allOrNone).trans (later.gained (earlier.leftover_eq.trans allOrNone))
  credentials_eq := by
    rw [later.credentials_eq, List.map_append, earlier.credentials_eq, ← List.map_append,
      List.append_assoc]
  enrolled := by
    intro account member
    exact (List.mem_append.mp member).elim (earlier.enrolled account) (later.enrolled account)
  distinct := later.distinct ∘ earlier.distinct

theorem usernames_eq {opened live : Store} {added : List Account}
    (grown : Grown opened live added) :
    live.usernames = opened.usernames ++ added.map Account.username := by
  rw [usernames, usernames_of_credentials grown.credentials_eq, List.map_append]
  rfl

theorem length_eq {opened live : Store} {added : List Account}
    (grown : Grown opened live added) :
    live.rows.length = opened.rows.length + added.length := by
  simpa using congrArg List.length grown.credentials_eq

end Grown

theorem grown_perform (store : Store) (action : Action) :
    Grown store (store.perform action) (store.accepts action) := by
  cases action with
  | insert username salt passwordHash iterations =>
      simp only [perform, accepts]
      have outcome := store.insertion username salt passwordHash iterations
      generalize store.insert username salt passwordHash iterations = result at outcome ⊢
      cases outcome with
      | refused failure journal content tried kept => exact .refused rfl rfl rfl kept rfl
      | accepted journal checked room fresh =>
          exact .inserted rfl rfl rfl rfl rfl ⟨checked, rfl⟩ fresh
  | setSession username session =>
      simp only [perform, accepts]
      have outcome := store.session_change username session
      generalize store.setSession username session = result at outcome ⊢
      cases outcome with
      | refused journal reason => exact .unchanged rfl rfl rfl
      | taken fits member =>
          exact .unchanged rfl rfl (replace_session_credentials username session store.rows)
  | findByUsername username => exact .unchanged rfl rfl rfl
  | findBySession session => exact .unchanged rfl rfl rfl
  | appendsFail fault => exact .refused rfl rfl rfl (fun _ => rfl) rfl

theorem grown_run (store : Store) (actions : List Action) :
    Grown store (store.run actions) (store.accepted actions) := by
  induction actions generalizing store with
  | nil => exact .unchanged rfl rfl rfl
  | cons action actions ih => exact (grown_perform store action).trans (ih (store.perform action))

end Store

end Accounts
