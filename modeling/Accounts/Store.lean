import Accounts.Account.Record
import Accounts.Backing
import Accounts.Event

/-!
The table of accounts. Its rows are replayed from the backing when it is opened,
and every accepted account is appended there before the rows grow. Sessions
change in the rows alone: the backing keeps an account as it was inserted.
-/

namespace Accounts

def defaultCapacity : Nat := 10000

/-- What the replay of the backing came to. -/
inductive LoadStatus where
  | fresh
  | loaded (rows : Nat)
  /-- The size in bytes is not a whole number of records. -/
  | corrupt (size : Nat)
  | unreadable
  deriving DecidableEq, Repr

def LoadStatus.diagnostic : LoadStatus → String
  | .fresh => "Fresh"
  | .loaded rows => shownRecord "Loaded" [("rows", toString rows)]
  | .corrupt size => shownRecord "Corrupt" [("size", toString size)]
  | .unreadable => "Unreadable"

structure Store where
  backing : Backing
  capacity : Nat
  /-- In the order in which they came. -/
  rows : List Account
  status : LoadStatus
  /-- What was reported so far, the oldest event first. -/
  journal : List Event
  deriving DecidableEq, Repr

namespace Store

def hasUsername (rows : List Account) (username : String) : Bool :=
  rows.any fun row => row.username == username

/-- Adds the account of one record, unless it has no readable name or its name is there already. -/
def replayRecord (location : String) (state : List Account × List Event) (record : Bytes × Nat) :
    List Account × List Event :=
  match Account.decode? record.1 with
  | none => (state.1, state.2 ++ [.recordUnreadable location record.2])
  | some account =>
      if hasUsername state.1 account.username then
        (state.1, state.2 ++ [.recordDuplicate location record.2 account.username])
      else (state.1 ++ [account], state.2)

/-- The rows of the first records, at most as many as the capacity, and what was skipped. -/
def replayBytes (location : String) (capacity : Nat) (bytes : Bytes) :
    List Account × List Event :=
  let count := min (bytes.length / recordWidth) capacity
  (splitRecords count bytes).zipIdx.foldl (replayRecord location) ([], [])

/-- Opens the table of a backing, or tells why its content cannot be replayed. -/
def tryLoad (backing : Backing) (capacity : Nat) : Except Failure Store :=
  match backing.read with
  | .error fault => .error (.storage fault)
  | .ok none => .ok ⟨backing, capacity, [], .fresh, [.tableMissing backing.location]⟩
  | .ok (some bytes) =>
      if bytes.length % recordWidth = 0 then
        let total := bytes.length / recordWidth
        let (rows, skipped) := replayBytes backing.location capacity bytes
        let excess := if capacity < total then
          [Event.tableOverflow backing.location total capacity] else []
        .ok ⟨backing, capacity, rows, .loaded rows.length,
          excess ++ skipped ++ [.tableLoaded backing.location rows.length]⟩
      else .error (.corruptTable backing.location bytes.length)

/-- Opens the table of a backing; where the replay fails, the table starts empty. -/
def load (backing : Backing) (capacity : Nat) : Store :=
  match tryLoad backing capacity with
  | .ok store => store
  | .error failure =>
      let status := match failure with
        | .corruptTable _ size => LoadStatus.corrupt size
        | _ => .unreadable
      ⟨backing, capacity, [], status, [.tableFailed backing.location failure]⟩

def note (store : Store) (event : Event) : Store :=
  { store with journal := store.journal ++ [event] }

def usernames (store : Store) : List String := store.rows.map Account.username

/-- The empty name finds nothing. -/
def findByUsername (store : Store) (username : String) : Option Account :=
  if username.isEmpty then none else store.rows.find? fun row => row.username == username

/-- The first row that is signed in with this session; the empty text finds nothing. -/
def findBySession (store : Store) (session : String) : Option Account :=
  if session.isEmpty then none
  else store.rows.find? fun row => row.hasSession && sameBytes (utf8 row.session) (utf8 session)

def insert (store : Store) (username : String) (salt : Salt) (passwordHash : PasswordHash)
    (iterations : UInt32) : Except Failure Unit × Store :=
  match checkUsername username with
  | .error failure => (.error failure, store)
  | .ok () =>
      if store.capacity ≤ store.rows.length then
        (.error (.tableFull store.capacity), store.note (.tableFull store.capacity))
      else if hasUsername store.rows username then (.error .accountExists, store)
      else
        let account := Account.new username salt passwordHash iterations
        match store.backing.append account.encode with
        | (.error fault, backing) =>
            (.error (.storage fault),
              { store with backing }.note (.appendFailed backing.location fault))
        | (.ok (), backing) =>
            let rows := store.rows ++ [account]
            (.ok (), { store with backing, rows }.note (.recordAppended rows.length))

def replaceSession (username session : String) : List Account → List Account
  | [] => []
  | row :: rows =>
      if row.username = username then { row with session } :: rows
      else row :: replaceSession username session rows

/-- Whether a row took the session. A text that is longer than the field of a record is refused. -/
def setSession (store : Store) (username session : String) : Bool × Store :=
  if maxSessionBytes < session.utf8ByteSize then
    (false, store.note (.sessionTooLong session.utf8ByteSize maxSessionBytes))
  else if hasUsername store.rows username then
    (true, { store with rows := replaceSession username session store.rows })
  else (false, store)

end Store

end Accounts
