import Mathlib.Logic.Relation
import Accounts.Proofs.SessionLife

/-!
# Credentials over restarts

A table that began without a backing is mirrored there record for record, if appends to
the backing are all or none. So a restart with room for all records finds every account
as it was registered, and its password opens it, whatever the settings have become.
-/

namespace Accounts

namespace Store

/-- The accounts as they were registered, without the sessions they were given since. -/
def registered (store : Store) : List Account := store.rows.map Account.credentials

/-- The backing holds the accounts of the table, and nothing else. -/
structure Mirrored (store : Store) : Prop where
  readable : store.backing.readFault = none
  allOrNone : store.backing.AllOrNone
  bytes_eq : store.backing.bytes = store.registered.flatMap Account.encode
  enrolled : ∀ account ∈ store.registered, account.Enrolled
  distinct : store.usernames.Nodup

section

variable {store live : Store} {added : List Account}

theorem Grown.registered_eq (grown : Grown store live added) :
    live.registered = store.registered ++ added := by
  have same : added.map Account.credentials = added.map id := by
    apply List.map_congr_left
    intro account member
    rw [Account.credentials, ← (grown.enrolled account member).signedOut]
    rfl
  rw [registered, grown.credentials_eq, List.map_append, same, List.map_id]
  rfl

theorem Mirrored.grown (mirrored : store.Mirrored) (grown : Grown store live added) :
    live.Mirrored where
  readable := (grown.gained mirrored.allOrNone).readFault_eq.trans mirrored.readable
  allOrNone := grown.leftover_eq.trans mirrored.allOrNone
  bytes_eq := by
    rw [(grown.gained mirrored.allOrNone).bytes_eq, mirrored.bytes_eq, grown.registered_eq,
      List.flatMap_append]
  enrolled := by
    intro account member
    rw [grown.registered_eq, List.mem_append] at member
    exact member.elim (mirrored.enrolled account) (grown.enrolled account)
  distinct := grown.distinct mirrored.distinct

theorem Mirrored.whole (mirrored : store.Mirrored) : store.backing.Whole where
  readable := mirrored.readable
  aligned := by rw [mirrored.bytes_eq, encoded_length, Nat.mul_mod_left]

theorem Mirrored.records_eq (mirrored : store.Mirrored) :
    store.backing.records = store.registered.map Account.encode := by
  have aligned : ([] : Bytes).length % recordWidth = 0 := rfl
  rw [Backing.records, mirrored.bytes_eq]
  exact records_of_append_encoded store.registered aligned

theorem registered_usernames (store : Store) :
    store.registered.map Account.username = store.usernames := by
  rw [registered, List.map_map]
  rfl

/-- A restart gives the accounts back as they were registered. -/
theorem Mirrored.reload_rows (mirrored : store.Mirrored) {capacity : Nat}
    (room : store.backing.records.length ≤ capacity) :
    (load store.backing capacity).rows = store.registered := by
  have opened := load_opened capacity mirrored.whole
  have storable : ∀ account ∈ store.registered, account.Storable := by
    intro account member
    exact (mirrored.enrolled account member).storable
  have distinct : (([] ++ store.registered).map Account.username).Nodup := by
    rw [List.nil_append, registered_usernames]
    exact mirrored.distinct
  rw [opened.rows_eq, List.take_of_length_le room, mirrored.records_eq,
    keep_all_encoded [] store.registered storable distinct, List.nil_append]

theorem Mirrored.reload_registered (mirrored : store.Mirrored) {capacity : Nat}
    (room : store.backing.records.length ≤ capacity) :
    (load store.backing capacity).registered = store.registered := by
  rw [registered, mirrored.reload_rows room, registered, List.map_map]
  rfl

theorem Mirrored.reload (mirrored : store.Mirrored) {capacity : Nat}
    (room : store.backing.records.length ≤ capacity) :
    (load store.backing capacity).Mirrored where
  readable := by rw [load_backing, mirrored.readable]
  allOrNone := by rw [load_backing]; exact mirrored.allOrNone
  bytes_eq := by
    rw [(load_opened capacity mirrored.whole).backing_eq, mirrored.bytes_eq,
      mirrored.reload_registered room]
  enrolled := by
    rw [mirrored.reload_registered room]
    exact mirrored.enrolled
  distinct := load_nodup _ _

theorem mirrored_of_absent {backing : Backing} (absent : backing.content = none)
    (readable : backing.readFault = none) (allOrNone : backing.AllOrNone) (capacity : Nat) :
    (load backing capacity).Mirrored := by
  have whole : backing.Whole := ⟨readable, by simp [Backing.bytes, absent]⟩
  have opened := load_opened capacity whole
  have empty : (load backing capacity).rows = [] := by
    rw [opened.rows_eq]
    simp [Backing.records, Backing.bytes, absent, recordsOf, splitRecords, keepAll]
  constructor
  · rw [opened.backing_eq, readable]
  · rw [opened.backing_eq]
    exact allOrNone
  · rw [opened.backing_eq, registered, empty, Backing.bytes, absent]
    rfl
  · simp [registered, empty]
  · exact load_nodup _ _

theorem Mirrored.find_registered (mirrored : store.Mirrored) {account : Account}
    (member : account ∈ store.registered) :
    ∃ row, store.findByUsername account.username = some row ∧ row.credentials = account := by
  have enrolled := mirrored.enrolled account member
  obtain ⟨row, place, rfl⟩ := List.mem_map.mp member
  have named : row.username ≠ "" := (check_username_ok.mp enrolled.checked).1
  exact ⟨row, find_by_username_of_mem mirrored.distinct named place, rfl⟩

end

end Store

namespace Service

/-- A call, or a restart with other settings and another source of random bytes. The table is then
opened again with room for all its records. -/
inductive Next (service : Service) : Service → Prop where
  | call (action : Action) : Next service (service.act action).2
  | restart (settings : Settings) (capacity : Nat) (entropy : Entropy)
      (room : service.store.backing.records.length ≤ capacity) :
      Next service ⟨settings, .load service.store.backing capacity, entropy⟩

def History : Service → Service → Prop := Relation.ReflTransGen Next

variable {service later : Service}

theorem Next.keeps (next : Next service later) (mirrored : service.store.Mirrored) :
    later.store.Mirrored ∧ service.store.registered <+: later.store.registered := by
  cases next with
  | call action =>
      obtain ⟨added, grown⟩ := service.act_grown action
      refine ⟨mirrored.grown grown, ?_⟩
      rw [grown.registered_eq]
      exact List.prefix_append _ _
  | restart settings capacity entropy room =>
      refine ⟨mirrored.reload room, [], ?_⟩
      rw [List.append_nil, mirrored.reload_registered room]

theorem History.keeps (history : History service later) (mirrored : service.store.Mirrored) :
    later.store.Mirrored ∧ service.store.registered <+: later.store.registered := by
  induction history with
  | refl => exact ⟨mirrored, List.prefix_refl _⟩
  | tail earlier next ih =>
      obtain ⟨between, kept⟩ := ih
      obtain ⟨after, more⟩ := next.keeps between
      exact ⟨after, kept.trans more⟩

section

variable {username password : String} {account : Account} {result : Except Failure Login × Service}

theorem LoginCase.proved (ended : LoginCase service username password result)
    (found : service.store.findByUsername username = some account) (given : password ≠ "")
    (proved : account.HasPassword password) :
    result.2.entropy = (service.entropy.draw service.settings.sessionEntropy).2 ∧
      ((∃ failure, (service.entropy.draw service.settings.sessionEntropy).1 = .error failure ∧
          result.1 = .error failure) ∨
        ∃ bytes, (service.entropy.draw service.settings.sessionEntropy).1 = .ok bytes ∧
          result.1 = .ok ⟨username, sessionOf bytes.toList, service.settings.cookieName⟩ ∧
          result.2.store.findByUsername username =
            some { account with session := sessionOf bytes.toList }) := by
  have named : username ≠ "" := by
    rintro rfl
    simp [Store.findByUsername] at found
  rcases ended.of_right_password found given proved with
    ⟨failure, journal, failed, rfl⟩ | ⟨bytes, journal, drawn, rfl⟩
  · exact ⟨rfl, .inl ⟨failure, failed, rfl⟩⟩
  · refine ⟨rfl, .inr ⟨bytes, drawn, rfl, ?_⟩⟩
    rw [Store.findByUsername, if_neg (by simpa using named)] at found ⊢
    simp [Store.find_replace_session, found]

theorem LoginCase.refuted (ended : LoginCase service username password result)
    (found : service.store.findByUsername username = some account) (given : password ≠ "")
    (refuted : ¬ account.HasPassword password) : result.1 = .error .wrongPassword := by
  cases ended with
  | missing reason =>
      rcases reason with rfl | empty
      · simp [Store.findByUsername] at found
      · exact absurd empty given
  | unknown journal given absent => simp [absent] at found
  | wrong journal other given otherFound refuted => rfl
  | dry journal other given otherFound proved failure failed =>
      rw [found, Option.some_inj] at otherFound
      exact absurd (otherFound ▸ proved) refuted
  | signedIn journal other given otherFound proved bytes drawn =>
      rw [found, Option.some_inj] at otherFound
      exact absurd (otherFound ▸ proved) refuted

theorem find_enrolled (journal : List Event) (named : account.username ≠ "")
    (fresh : account.username ∉ service.store.usernames) :
    (service.enrol account journal).store.findByUsername account.username = some account := by
  rw [Store.findByUsername, if_neg (by simpa using named)]
  simp [enrol, List.find?_append, Store.find_eq_none_of_not_mem fresh]

/-- A registration that inserts an account: it succeeds, or it fails when the random bytes for a
session have been asked for. -/
def Inserts (service : Service) (username password : String) : Prop :=
  (service.register username password).1.isOk = true ∨
    (∃ failure, (service.register username password).1 = .error failure) ∧
      (service.register username password).2.entropy.asked =
        service.entropy.asked ++ [16, service.settings.sessionEntropy]

theorem Inserts.grown (inserted : service.Inserts username password) :
    ∃ salt, (service.entropy.draw 16).1 = .ok salt ∧ password ≠ "" ∧
      username ∉ service.store.usernames ∧
      service.store.Grown (service.register username password).2.store
        [service.newAccount username password salt] := by
  unfold Inserts at inserted
  have ended := service.register_case username password
  generalize service.register username password = result at inserted ended ⊢
  cases ended with
  | refused failure journal content tried entropy kept early =>
      rcases inserted with ok | ⟨_, asked⟩
      · simp [Except.isOk, Except.toBool] at ok
      · have lengths := congrArg List.length asked
        rcases early with same | one
        · simp [same] at lengths
        · simp [one] at lengths
  | enrolled journal salt drawn checked given fresh signIn =>
      exact ⟨salt, drawn, given, fresh, signIn.grown_enrolled checked fresh⟩

/-- The answers of a registration tell whether its account was inserted. -/
theorem inserts_iff : service.Inserts username password ↔
    username ∉ service.store.usernames ∧
      username ∈ (service.register username password).2.store.usernames := by
  constructor
  · intro inserted
    obtain ⟨salt, _, _, fresh, grown⟩ := inserted.grown
    refine ⟨fresh, ?_⟩
    rw [grown.usernames_eq]
    exact List.mem_append_right _ List.mem_cons_self
  · rintro ⟨fresh, member⟩
    unfold Inserts
    have ended := service.register_case username password
    generalize service.register username password = result at member ended ⊢
    cases ended with
    | refused failure journal content tried entropy kept early => exact absurd member fresh
    | enrolled journal salt drawn checked given fresh signIn =>
        have named : username ≠ "" := (check_username_ok.mp checked).1
        have found : (service.enrol (service.newAccount username password salt)
            journal).store.findByUsername username = some _ := find_enrolled journal named fresh
        obtain ⟨entropy, ⟨failure, _, failed⟩ | ⟨bytes, _, ok, _⟩⟩ := signIn.proved found given
          (service.new_account_has_password username password salt)
        · refine .inr ⟨⟨failure, failed⟩, ?_⟩
          rw [entropy]
          simp [enrol, Entropy.draw]
        · exact .inl (by rw [ok]; rfl)

/-- The account that a registration inserted keeps its salt, its key and its iteration count over
all calls and restarts that follow, if appends to the backing are all or none. Its password signs it
in whenever the random bytes for the session can be had, and a password with another key is a wrong
one. -/
theorem registered_password_keeps_working {backing : Backing} {settings : Settings}
    {capacity : Nat} {entropy : Entropy} (absent : backing.content = none)
    (readable : backing.readFault = none) (allOrNone : backing.AllOrNone)
    (earlier : History ⟨settings, .load backing capacity, entropy⟩ service)
    (inserted : service.Inserts username password) :
    ∃ salt, (service.entropy.draw 16).1 = .ok salt ∧
      ∀ later, History (service.register username password).2 later →
        ∃ row, later.store.findByUsername username = some row ∧
          row.credentials = ⟨username, salt,
            Pbkdf2.passwordHash (utf8 password) salt.toList service.settings.iterations,
            service.settings.iterations, ""⟩ ∧
          (∀ source bytes, (source.draw later.settings.sessionEntropy).1 = .ok bytes →
            ({ later with entropy := source }.login username password).1 =
                .ok ⟨username, sessionOf bytes.toList, later.settings.cookieName⟩ ∧
              ({ later with entropy := source }.login username password).2.store.findByUsername
                username = some { row with session := sessionOf bytes.toList }) ∧
          ∀ wrong, wrong ≠ "" →
            Pbkdf2.passwordHash (utf8 wrong) salt.toList service.settings.iterations ≠
              Pbkdf2.passwordHash (utf8 password) salt.toList service.settings.iterations →
            (later.login username wrong).1 = .error .wrongPassword := by
  have mirrored : service.store.Mirrored :=
    (earlier.keeps (Store.mirrored_of_absent absent readable allOrNone capacity)).1
  obtain ⟨salt, drawn, given, _, grown⟩ := inserted.grown
  refine ⟨salt, drawn, ?_⟩
  intro later history
  obtain ⟨laterMirrored, kept⟩ := history.keeps (mirrored.grown grown)
  have member : service.newAccount username password salt ∈ later.store.registered := by
    apply kept.subset
    rw [grown.registered_eq]
    exact List.mem_append_right _ List.mem_cons_self
  obtain ⟨row, found, same⟩ := laterMirrored.find_registered member
  have passwords : ∀ attempt, row.HasPassword attempt ↔
      (service.newAccount username password salt).HasPassword attempt := by
    intro attempt
    rw [← same]
    rfl
  refine ⟨row, found, same, ?_, ?_⟩
  · intro source bytes delivered
    have right := (passwords password).mpr
      (service.new_account_has_password username password salt)
    have ended := login_case { later with entropy := source } username password
    obtain ⟨_, ⟨failure, failed, _⟩ | ⟨others, drawn, ok, changed⟩⟩ :=
      ended.proved found given right
    · simp [delivered] at failed
    · rw [delivered, Except.ok.injEq] at drawn
      exact ⟨drawn ▸ ok, drawn ▸ changed⟩
  · intro wrong nonempty different
    have refuted : ¬ row.HasPassword wrong := mt (passwords wrong).mp different
    exact (login_case later username wrong).refuted found nonempty refuted

theorem alice_signs_in_after_restart :
    let source : Entropy := .ofSequence fun index => UInt8.ofNat index
    let start : Service := ⟨⟨1, 1, "session"⟩, .load (.sound "users" none) 2, source⟩
    let restarted : Service := ⟨⟨2, 1, "renewed"⟩,
      .load (start.register "alice" "secret").2.store.backing 1, source⟩
    start.Inserts "alice" "secret" ∧
      History (start.register "alice" "secret").2 restarted ∧
      (∃ login, (restarted.login "alice" "secret").1 = .ok login) ∧
      (restarted.login "alice" "guess").1 = .error .wrongPassword := by
  intro source start restarted
  have inserted : start.Inserts "alice" "secret" := .inl (by decide +kernel)
  have room : (start.register "alice" "secret").2.store.backing.records.length ≤ 1 := by
    decide +kernel
  have history : History (start.register "alice" "secret").2 restarted :=
    .single (.restart ⟨2, 1, "renewed"⟩ 1 source room)
  have allOrNone : (Backing.sound "users" none).AllOrNone := rfl
  obtain ⟨salt, drawn, keeps⟩ :=
    registered_password_keeps_working rfl rfl allOrNone .refl inserted
  obtain ⟨row, _, _, right, wrong⟩ := keeps restarted history
  have delivered : (source.draw 1).1 = .ok #v[0] := by decide +kernel
  refine ⟨inserted, history, ⟨_, (right source _ delivered).1⟩, wrong "guess" (by decide) ?_⟩
  obtain rfl : (Vector.ofFn fun index : Fin 16 => UInt8.ofNat (0 + index.val)) = salt :=
    Except.ok.inj drawn
  decide +kernel

end

end Service

end Accounts
