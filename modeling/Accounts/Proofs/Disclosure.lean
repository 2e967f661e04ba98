import Accounts.Proofs.AppendOnly
import Accounts.Proofs.Opening
import Accounts.Proofs.RoundTrip

/-!
# What is shown without a password

The commands that list and inspect accounts tell nothing of a salt, a hash or a session id. The
replay of a content is followed by a replay of views: each record is seen as what a view tells
of its account, and rows, warnings and the final count come out of that alone. Contents whose
records are seen alike are therefore shown alike, on either stream and with the same exit code.
-/

namespace Accounts

def iterationsField (record : Bytes) : Bytes :=
  (record.drop (usernameWidth + saltWidth + hashWidth)).take 4

/-- The name, the iterations, and whether a session is read. -/
def summaryFields (record : Bytes) : Bytes × Bytes × Bool :=
  (usernameField record, iterationsField record,
    ((unpadField (sessionField record)).getD "").isEmpty)

namespace Account

def summary (account : Account) : String × UInt32 × Bool :=
  (account.username, account.iterations, account.hasSession)

end Account

section

variable {Look View : Type}

/-- Contents of one size whose records look the same, if it is the size of whole records. -/
structure Alike (look : Bytes → Look) (first second : Bytes) : Prop where
  length_eq : first.length = second.length
  looks_eq : first.length % recordWidth = 0 → ∀ place < first.length / recordWidth,
    look (recordAt first place) = look (recordAt second place)

/-- Records that look the same are read as accounts that are seen the same, and the view of an
account tells its name. -/
structure Shows (look : Bytes → Look) (view : Account → View) (name : View → String) : Prop where
  decode_eq : ∀ first second : Bytes, first.length = second.length → look first = look second →
    (Account.decode? first).map view = (Account.decode? second).map view
  name_eq : ∀ account, name (view account) = account.username

end

theorem username_shown : Shows usernameField Account.username id where
  decode_eq := by
    intro first second size same
    have name : first.take usernameWidth = second.take usernameWidth := same
    unfold Account.decode?
    by_cases sized : first.length = 149
    · rw [dif_pos sized, dif_pos (size.symm.trans sized), name, Option.map_map, Option.map_map]
      rfl
    · rw [dif_neg sized, dif_neg (size ▸ sized)]
  name_eq account := rfl

theorem decode_summary {record : Bytes} (sized : record.length = 149)
    (fits : 80 + 4 ≤ record.length) :
    (Account.decode? record).map Account.summary =
      (unpadField (usernameField record)).map fun username =>
        (username, ofLittleEndian32 (sliceBytes record 80 4 fits),
          !((unpadField (sessionField record)).getD "").isEmpty) := by
  rw [Account.decode?, dif_pos sized, Option.map_map]
  rfl

theorem summary_shown : Shows summaryFields Account.summary Prod.fst where
  decode_eq := by
    intro first second size same
    obtain ⟨name, rest⟩ := Prod.mk.inj same
    obtain ⟨iterations, session⟩ := Prod.mk.inj rest
    by_cases sized : first.length = 149
    · have otherSized : second.length = 149 := size.symm.trans sized
      have fits : 80 + 4 ≤ first.length := by omega
      have otherFits : 80 + 4 ≤ second.length := by omega
      have word : sliceBytes first 80 4 fits = sliceBytes second 80 4 otherFits := by
        apply Vector.toList_inj.mp
        rw [slice_bytes_list, slice_bytes_list]
        exact iterations
      rw [decode_summary sized fits, decode_summary otherSized otherFits, name, word, session]
    · rw [Account.decode?, Account.decode?, dif_neg sized, dif_neg (size ▸ sized)]
  name_eq account := rfl

namespace Store

section

variable {Look View : Type} {look : Bytes → Look} {view : Account → View} {name : View → String}

/-- The step of a replay as it is seen in views alone. -/
def seeRecord (name : View → String) (location : String) (state : List View × List Event)
    (record : Option View × Nat) : List View × List Event :=
  match record.1 with
  | none => (state.1, state.2 ++ [.recordUnreadable location record.2])
  | some seen =>
      if state.1.any fun row => name row == name seen then
        (state.1, state.2 ++ [.recordDuplicate location record.2 (name seen)])
      else (state.1 ++ [seen], state.2)

theorem replay_record_seen (named : ∀ account, name (view account) = account.username)
    (location : String) (state : List Account × List Event) (record : Bytes × Nat) :
    Prod.map (List.map view) id (replayRecord location state record) =
      seeRecord name location (Prod.map (List.map view) id state)
        (Prod.map (fun bytes => (Account.decode? bytes).map view) id record) := by
  unfold replayRecord seeRecord
  simp only [Prod.map_fst, Prod.map_snd, id_eq]
  cases Account.decode? record.1 with
  | none => rfl
  | some account =>
      have known : (state.1.map view).any (fun row => name row == account.username) =
          hasUsername state.1 account.username := by
        simp only [List.any_map, hasUsername, Function.comp_def, named]
      simp only [Option.map_some, named, known]
      split
      · rfl
      · simp only [Prod.map_apply, List.map_append, List.map_singleton, id_eq]

/-- A replay is seen in views as the replay of the views. -/
theorem replay_bytes_seen (named : ∀ account, name (view account) = account.username)
    (location : String) (capacity : Nat) (bytes : Bytes) :
    Prod.map (List.map view) id (replayBytes location capacity bytes) =
      ((List.range (min (bytes.length / recordWidth) capacity)).map fun place =>
        (Account.decode? (recordAt bytes place)).map view).zipIdx.foldl (seeRecord name location)
        ([], []) := by
  have records : (List.range (min (bytes.length / recordWidth) capacity)).map (fun place =>
      (Account.decode? (recordAt bytes place)).map view) =
      (splitRecords (min (bytes.length / recordWidth) capacity) bytes).map fun record =>
        (Account.decode? record).map view := by
    rw [split_records_eq_map, List.map_map]
    rfl
  rw [records, List.zipIdx_map, List.foldl_map]
  change _ = List.foldl _ (Prod.map (List.map view) id ([], [])) _
  symm
  apply List.foldl_hom
  intro state record
  exact (replay_record_seen named location state record).symm

theorem replay_bytes_alike {first second : Bytes} (shows : Shows look view name)
    (alike : Alike look first second) (aligned : first.length % recordWidth = 0)
    (location : String) (capacity : Nat) :
    let replayed := replayBytes location capacity first
    let others := replayBytes location capacity second
    replayed.1.map view = others.1.map view ∧ replayed.2 = others.2 := by
  intro replayed others
  have same : Prod.map (List.map view) id replayed = Prod.map (List.map view) id others := by
    rw [replay_bytes_seen shows.name_eq, replay_bytes_seen shows.name_eq, ← alike.length_eq]
    congr 2
    apply List.map_congr_left
    intro place inside
    have early := List.mem_range.mp inside
    apply shows.decode_eq
    · simp only [recordAt, List.length_take, List.length_drop, alike.length_eq]
    · exact alike.looks_eq aligned place (by omega)
  exact Prod.mk.inj same

/-- Tables that look the same through a view of their rows. -/
structure SeenAlike (view : Account → View) (first second : Store) : Prop where
  capacity_eq : first.capacity = second.capacity
  rows_eq : first.rows.map view = second.rows.map view
  status_eq : first.status = second.status
  journal_eq : first.journal = second.journal

theorem load_seen_alike {first second : Bytes} {backing other : Backing}
    (shows : Shows look view name) (alike : Alike look first second)
    (location : backing.location = other.location)
    (read : backing.read = .ok (some first)) (otherRead : other.read = .ok (some second))
    (capacity : Nat) :
    SeenAlike view (load backing capacity) (load other capacity) := by
  by_cases aligned : first.length % recordWidth = 0
  · obtain ⟨rows, skipped⟩ := replay_bytes_alike shows alike aligned backing.location capacity
    have count := congrArg List.length rows
    rw [List.length_map, List.length_map] at count
    simp only [load, tryLoad, read, otherRead, if_pos aligned, ← location, ← alike.length_eq]
    exact ⟨rfl, rows, congrArg LoadStatus.loaded count, by rw [skipped, count]⟩
  · have refused := try_load_of_torn capacity read aligned
    have otherRefused := try_load_of_torn capacity otherRead (alike.length_eq ▸ aligned)
    rw [← alike.length_eq, ← location] at otherRefused
    simp only [load, refused, otherRefused]
    exact ⟨rfl, rfl, rfl, congrArg (fun place => [Event.tableFailed place _]) location⟩

end

theorem SeenAlike.list_reply {first second : Store}
    (alike : SeenAlike Account.username first second) : first.listReply = second.listReply := by
  have names : first.usernames = second.usernames := alike.rows_eq
  have count := congrArg List.length names
  rw [usernames, usernames, List.length_map, List.length_map] at count
  rw [listReply, listReply, names, count, alike.capacity_eq, alike.status_eq]

theorem find_by_username_summary (store : Store) (username : String) :
    (store.findByUsername username).map Account.summary =
      if username.isEmpty then none
      else (store.rows.map Account.summary).find? fun summary => summary.1 == username := by
  unfold findByUsername
  split
  · rfl
  · rw [List.find?_map]
    rfl

theorem inspect_reply_eq (store : Store) (username : String) :
    store.inspectReply username =
      match (store.findByUsername username).map Account.summary with
      | none => .refusal (.failure .accountNotFound)
      | some (name, iterations, signedIn) =>
          .answer ["username:   " ++ name, "iterations: " ++ toString iterations,
            "session:    " ++ if signedIn then "active" else "none"] := by
  rw [inspectReply]
  cases store.findByUsername username with
  | none => rfl
  | some account => rfl

theorem SeenAlike.inspect_reply {first second : Store}
    (alike : SeenAlike Account.summary first second) (username : String) :
    first.inspectReply username = second.inspectReply username := by
  rw [inspect_reply_eq, inspect_reply_eq, find_by_username_summary, find_by_username_summary,
    alike.rows_eq]

end Store

/-- A path leads to contents whose records look alike. -/
def Files.ReadAlike {Look : Type} (look : Bytes → Look) (first second : Files) (path : Bytes) :
    Prop :=
  ∃ left right, first.read path = .ok left ∧ second.read path = .ok right ∧ Alike look left right

theorem Files.backing_read {files : Files} {path : String} {content : Bytes}
    (held : files.read (utf8 path) = .ok content) :
    (files.backing path).read = .ok (some content) := by
  simp only [backing, Backing.read, held]
  rfl

theorem Files.ReadAlike.seen {Look View : Type} {look : Bytes → Look} {view : Account → View}
    {name : View → String} {first second : Files} {path : String}
    (alike : first.ReadAlike look second (utf8 path)) (shows : Shows look view name)
    (capacity : Nat) :
    Store.SeenAlike view (.load (first.backing path) capacity)
      (.load (second.backing path) capacity) := by
  obtain ⟨left, right, held, otherHeld, same⟩ := alike
  have location : (first.backing path).location = (second.backing path).location := rfl
  exact Store.load_seen_alike shows same location (backing_read held) (backing_read otherHeld)
    capacity

/-- A byte that is changed is changed in one record at the most. -/
theorem record_at_set (bytes : Bytes) (index place : Nat) (byte : Byte) :
    recordAt (bytes.set index byte) place = recordAt bytes place ∨
      recordAt (bytes.set index byte) place =
        (recordAt bytes place).set (index % recordWidth) byte := by
  simp only [recordAt, List.drop_set]
  split
  · exact .inl rfl
  · rename_i behind
    obtain ⟨offset, rfl⟩ := Nat.exists_eq_add_of_le (Nat.le_of_not_lt behind)
    rw [List.take_set, Nat.add_sub_cancel_left]
    by_cases inside : offset < recordWidth
    · rw [Nat.mul_add_mod_of_lt inside]
      exact .inr rfl
    · left
      apply List.set_eq_of_length_le
      exact (List.length_take_le _ _).trans (Nat.le_of_not_lt inside)

theorem alike_of_byte_changed {Look : Type} {look : Bytes → Look} {index : Nat} {byte : Byte}
    (unseen : ∀ record : Bytes, look (record.set (index % recordWidth) byte) = look record)
    (bytes : Bytes) : Alike look bytes (bytes.set index byte) where
  length_eq := (List.length_set ..).symm
  looks_eq := by
    intro _ place _
    rcases record_at_set bytes index place byte with same | changed
    · rw [same]
    · rw [changed, unseen]

theorem username_field_set {offset : Nat} (behind : usernameWidth ≤ offset) (byte : Byte)
    (record : Bytes) : usernameField (record.set offset byte) = usernameField record :=
  List.take_set_of_le behind

theorem summary_fields_set {offset : Nat} (behind : usernameWidth ≤ offset)
    (before : offset < usernameWidth + saltWidth + hashWidth) (byte : Byte) (record : Bytes) :
    summaryFields (record.set offset byte) = summaryFields record := by
  have early : offset < recordWidth - sessionWidth := Nat.lt_trans before (by decide)
  rw [summaryFields, summaryFields, username_field_set behind, iterationsField, iterationsField,
    sessionField, sessionField, List.drop_set_of_lt before, List.drop_set_of_lt early]

namespace Request

theorem run_of_question {View : Type} {view : Account → View} {command : Command}
    {ask : Store → Reply} {given : Option Bytes} {environment : Environment} {first second : Files}
    (asks : ∀ config backing entropy prompt,
      command.run config backing entropy prompt = Command.run.withStore config backing ask)
    (shown : ∀ left right : Store, left.SeenAlike view right → ask left = ask right)
    (configured : Config.loadOrDefault first given = Config.loadOrDefault second given)
    (alike : ∀ config, Config.loadOrDefault first given >>= prepare environment = .ok config →
      Store.SeenAlike view (.load (first.backing config.databasePath) config.capacity.toNat)
        (.load (second.backing config.databasePath) config.capacity.toNat))
    (entropy other : Entropy) (prompt otherPrompt : Prompt) :
    (run ⟨given, command⟩ first environment entropy prompt).1 =
      (run ⟨given, command⟩ second environment other otherPrompt).1 := by
  cases prepared : Config.loadOrDefault first given >>= prepare environment with
  | error fault =>
      have otherPrepared := configured ▸ prepared
      rw [run_of_fault prepared, run_of_fault otherPrepared]
  | ok config =>
      have otherPrepared := configured ▸ prepared
      have same := alike config prepared
      have reply := shown _ _ same
      rw [run_of_config prepared, run_of_config otherPrepared, asks, asks]
      simp only [Report.ofOutcome, Command.run.withStore, reply, same.journal_eq]

/-- Nothing that is printed on either stream by a listing depends on more than the names, and by an
inspection on more than names, iterations, and which of the sessions are empty. So no byte of a
salt, of a hash or, for a listing, of a session makes a difference. -/
theorem secrets_are_not_shown (given : Option Bytes) (environment : Environment)
    {first second : Files}
    (configured : Config.loadOrDefault first given = Config.loadOrDefault second given) :
    let prepared := Config.loadOrDefault first given >>= prepare environment
    ((∀ config, prepared = .ok config →
        first.ReadAlike usernameField second (utf8 config.databasePath)) →
      ∀ entropy other prompt otherPrompt,
        (run ⟨given, .list⟩ first environment entropy prompt).1 =
          (run ⟨given, .list⟩ second environment other otherPrompt).1) ∧
      ((∀ config, prepared = .ok config →
          first.ReadAlike summaryFields second (utf8 config.databasePath)) →
        ∀ username entropy other prompt otherPrompt,
          (run ⟨given, .inspect username⟩ first environment entropy prompt).1 =
            (run ⟨given, .inspect username⟩ second environment other otherPrompt).1) ∧
      ∀ bytes index byte, usernameWidth ≤ index % recordWidth →
        Alike usernameField bytes (bytes.set index byte) ∧
          (index % recordWidth < usernameWidth + saltWidth + hashWidth →
            Alike summaryFields bytes (bytes.set index byte)) := by
  intro prepared
  refine ⟨?_, ?_, ?_⟩
  · intro alike
    apply run_of_question (fun _ _ _ _ => rfl) (fun _ _ => Store.SeenAlike.list_reply) configured
    intro config sound
    exact (alike config sound).seen username_shown config.capacity.toNat
  · intro alike username
    apply run_of_question (fun _ _ _ _ => rfl) (fun _ _ same => same.inspect_reply username)
      configured
    intro config sound
    exact (alike config sound).seen summary_shown config.capacity.toNat
  · intro bytes index byte behind
    refine ⟨alike_of_byte_changed (username_field_set behind byte) bytes, ?_⟩
    intro before
    exact alike_of_byte_changed (summary_fields_set behind before byte) bytes

/-- The records of alice, who is signed in, and of bob, with an unreadable one between them. -/
def recordsWith (secret : Byte) (session : String) : Bytes :=
  let account (username session : String) : Bytes :=
    Account.encode ⟨username, Vector.replicate 16 secret, Vector.replicate 32 secret, 1000, session⟩
  account "alice" session ++ List.replicate 149 0xff ++ account "bob" ""

theorem other_secrets_are_shown_alike :
    let home := Files.emptyAt (utf8 "home")
    let first := home.withFile (utf8 "users") (recordsWith 1 "token")
    let second := home.withFile (utf8 "users") (recordsWith 2 "other")
    let environment : Environment := ⟨some "users", none, none⟩
    let source : Entropy := .ofScript []
    let config : Config := { Config.default with databasePath := "users" }
    Config.loadOrDefault first none = Config.loadOrDefault second none ∧
      Config.loadOrDefault first none >>= prepare environment = .ok config ∧
      first.ReadAlike usernameField second (utf8 "users") ∧
      first.ReadAlike summaryFields second (utf8 "users") ∧
      first.read (utf8 "users") ≠ second.read (utf8 "users") ∧
      (run ⟨none, .list⟩ first environment source .unattended).1 =
        (run ⟨none, .list⟩ second environment source .unattended).1 ∧
      (run ⟨none, .list⟩ second environment source .unattended).1.output = ["alice", "bob"] ∧
      (run ⟨none, .inspect "alice"⟩ first environment source .unattended).1 =
        (run ⟨none, .inspect "alice"⟩ second environment source .unattended).1 ∧
      (run ⟨none, .inspect "alice"⟩ second environment source .unattended).1.output =
        ["username:   alice", "iterations: 1000", "session:    active"] := by
  intro home first second environment source config
  have configured : Config.loadOrDefault first none = Config.loadOrDefault second none := rfl
  have prepared : Config.loadOrDefault first none >>= prepare environment = .ok config := by
    decide +kernel
  have held : first.read (utf8 "users") = .ok (recordsWith 1 "token") := by decide +kernel
  have otherHeld : second.read (utf8 "users") = .ok (recordsWith 2 "other") := by decide +kernel
  have apart : first.read (utf8 "users") ≠ second.read (utf8 "users") := by decide +kernel
  have names : first.ReadAlike usernameField second (utf8 "users") :=
    ⟨_, _, held, otherHeld, by decide +kernel, by decide +kernel⟩
  have summaries : first.ReadAlike summaryFields second (utf8 "users") :=
    ⟨_, _, held, otherHeld, by decide +kernel, by decide +kernel⟩
  obtain ⟨listed, inspected, _⟩ := secrets_are_not_shown none environment configured
  have list := listed (by
    intro other sound
    obtain rfl := Except.ok.inj (prepared.symm.trans sound)
    exact names) source source .unattended .unattended
  have inspect := inspected (by
    intro other sound
    obtain rfl := Except.ok.inj (prepared.symm.trans sound)
    exact summaries) "alice" source source .unattended .unattended
  exact ⟨configured, prepared, names, summaries, apart, list, by decide +kernel, inspect,
    by decide +kernel⟩

end Request

end Accounts
