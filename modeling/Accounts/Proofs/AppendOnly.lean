import Accounts.Command.Run
import Accounts.Proofs.Files.Appending
import Accounts.Proofs.Registration

/-!
# The records over many runs

Each run opens the table anew, does one command and is over; what lasts is the file of the
records. Only a registration adds to it, and what it adds is one record: when it succeeds,
and when it fails at nothing but the random bytes for the first session. An append that
fails can leave a front part of a record, unless appends are all or none. All else that a
command changes is in the rows, which end with the run. Other programs and people may change
other files between runs, so the history of a file is told for its place in the tree.
-/

namespace Accounts

namespace Service

/-- Nothing is in the way of a registration but the random bytes of its first session. -/
def LacksSession (service : Service) (username password : String) : Prop :=
  (service.earlyFaults username password).findSome? id = none ∧
    service.lateFaults.findSome? id = none ∧
    ∃ failure, ((service.entropy.draw 16).2.draw service.settings.sessionEntropy).1 =
      .error failure

/-- An account as a registration puts it into the records. -/
structure Registers (service : Service) (username : String) (account : Account) : Prop where
  username_eq : account.username = username
  iterations_eq : account.iterations = service.settings.iterations
  session_eq : account.session = ""
  width : account.encode.length = 149
  decoded : Account.decode? account.encode = some account

end Service

/-- What a command may have done to the records when it ends with an exit code: `kept` says that
they are as they were, `added` that the record of an account is behind them. The password of a
registration is the one that was given or else what the prompt gives. -/
structure Command.Settles (command : Command) (service : Service) (prompt : Prompt) (exit : Nat)
    (kept : Prop) (added : Account → Prop) : Prop where
  exit_cases : exit = 0 ∨ exit = 1
  others : (∀ username given, command ≠ .register username given) → kept
  succeeded : ∀ username given, command = .register username given → exit = 0 →
    ∃ account, service.Registers username account ∧ added account
  failed : ∀ username given, command = .register username given → exit = 1 →
    (∀ password, prompt.password true given = .ok password →
      ¬ service.LacksSession username password) → kept
  sessionless : ∀ username given password, command = .register username given →
    prompt.password true given = .ok password → service.LacksSession username password →
    exit = 1 ∧ ∃ account, service.Registers username account ∧ added account

namespace Command

variable {command : Command} {service : Service} {prompt : Prompt} {username : String}
  {given : Option String} {exit : Nat} {kept : Prop} {added : Account → Prop}

theorem settles_of_other (other : ∀ username given, command ≠ .register username given)
    (ended : exit = 0 ∨ exit = 1) (spared : kept) :
    command.Settles service prompt exit kept added where
  exit_cases := ended
  others _ := spared
  succeeded username given same := absurd same (other username given)
  failed username given same := absurd same (other username given)
  sessionless username given _ same := absurd same (other username given)

theorem settles_of_refused (spared : kept)
    (fine : ∀ password, prompt.password true given = .ok password →
      ¬ service.LacksSession username password) :
    (Command.register username given).Settles service prompt 1 kept added where
  exit_cases := .inr rfl
  others other := absurd rfl (other username given)
  succeeded _ _ _ success := absurd success Nat.one_ne_zero
  failed _ _ _ _ _ := spared
  sessionless := by
    rintro _ _ password ⟨⟩ read lacking
    exact absurd lacking (fine password read)

theorem settles_of_refused_password {password : String}
    (read : prompt.password true given = .ok password) (spared : kept)
    (fine : ¬ service.LacksSession username password) :
    (Command.register username given).Settles service prompt 1 kept added := by
  apply settles_of_refused spared
  intro other otherRead
  obtain rfl : password = other := Except.ok.inj (read.symm.trans otherRead)
  exact fine

theorem settles_of_added {password : String} {account : Account}
    (read : prompt.password true given = .ok password) (ended : exit = 0 ∨ exit = 1)
    (lacking : service.LacksSession username password ↔ exit = 1)
    (registers : service.Registers username account) (appended : added account) :
    (Command.register username given).Settles service prompt exit kept added where
  exit_cases := ended
  others other := absurd rfl (other username given)
  succeeded := by
    rintro _ _ ⟨⟩ _
    exact ⟨account, registers, appended⟩
  failed := by
    rintro _ _ ⟨⟩ failure fine
    exact absurd (lacking.mpr failure) (fine password read)
  sessionless := by
    rintro _ _ other ⟨⟩ otherRead missing
    obtain rfl : password = other := Except.ok.inj (read.symm.trans otherRead)
    exact ⟨lacking.mp missing, account, registers, appended⟩

theorem Settles.imp {kept' : Prop} {added' : Account → Prop}
    (settles : command.Settles service prompt exit kept added) (keeps : kept → kept')
    (adds : ∀ account, added account → added' account) :
    command.Settles service prompt exit kept' added' where
  exit_cases := settles.exit_cases
  others other := keeps (settles.others other)
  succeeded username given same success := by
    obtain ⟨account, registers, appended⟩ := settles.succeeded username given same success
    exact ⟨account, registers, adds account appended⟩
  failed username given same failure fine :=
    keeps (settles.failed username given same failure fine)
  sessionless username given password same read lacking := by
    obtain ⟨failure, account, registers, appended⟩ :=
      settles.sessionless username given password same read lacking
    exact ⟨failure, account, registers, adds account appended⟩

theorem Settles.kept_or_added (settles : command.Settles service prompt exit kept added) :
    kept ∨ ∃ account, added account := by
  by_cases registration : ∃ username given, command = .register username given
  · obtain ⟨username, given, same⟩ := registration
    rcases settles.exit_cases with success | failure
    · obtain ⟨account, _, appended⟩ := settles.succeeded username given same success
      exact .inr ⟨account, appended⟩
    · by_cases lacking : ∃ password, prompt.password true given = .ok password ∧
          service.LacksSession username password
      · obtain ⟨password, read, lacking⟩ := lacking
        obtain ⟨_, account, _, appended⟩ :=
          settles.sessionless username given password same read lacking
        exact .inr ⟨account, appended⟩
      · refine .inl (settles.failed username given same failure ?_)
        intro password read missing
        exact lacking ⟨password, read, missing⟩
  · refine .inl (settles.others ?_)
    intro username given same
    exact registration ⟨username, given, same⟩

end Command

namespace Backing

/-- The record of an account was appended to a backing that takes appends. -/
def Took (before after : Backing) (account : Account) : Prop :=
  before.appendFault = none ∧
    after = { before with content := some (before.bytes ++ account.encode), tried := true }

/-- The record of an account was not added, though a failing append can have left a part of it. -/
def Missed (before after : Backing) : Prop := ∃ record, before.Left record after

theorem Missed.content_eq {before after : Backing} (missed : before.Missed after)
    (allOrNone : before.AllOrNone) : after.content = before.content := by
  obtain ⟨record, left⟩ := missed
  exact (left.spared allOrNone).content_eq

end Backing

namespace Service

variable (service : Service) (username : String)

theorem login_backing (password : String) :
    (service.login username password).2.store.backing = service.store.backing := by
  have ended := service.login_case username password
  generalize service.login username password = result at ended ⊢
  cases ended with
  | missing reason => rfl
  | unknown journal given absent => rfl
  | wrong journal account given found refuted => rfl
  | dry journal account given found proved failure failed => rfl
  | signedIn journal account given found proved bytes drawn => rfl

theorem logout_reply_backing (login : Login) (visitor : Visitor) (lines : List String) :
    (service.logoutReply username login visitor lines).2.store.backing = service.store.backing := by
  obtain ⟨journal, ended⟩ := service.logout_case visitor
  rw [logoutReply, ended]
  simp only
  split
  · rfl
  · rfl

theorem session_reply_backing (login : Login) (logout : Bool) :
    (service.sessionReply username login logout).2.store.backing = service.store.backing := by
  unfold sessionReply
  simp only
  split
  · split
    · exact service.logout_reply_backing username login _ _
    · rfl
  · rfl

theorem login_reply_backing (password : Except String String) (logout : Bool) :
    (service.loginReply username password logout).2.store.backing = service.store.backing := by
  cases password with
  | error reason => rfl
  | ok password =>
      have kept := service.login_backing username password
      unfold loginReply
      simp only
      generalize service.login username password = result at kept ⊢
      obtain ⟨outcome, after⟩ := result
      cases outcome with
      | error failure => exact kept
      | ok login => exact (after.session_reply_backing username login logout).trans kept

theorem register_reply_eq (password : String) :
    service.registerReply username (.ok password) =
      (match (service.register username password).1 with
        | .error failure => .refusal (.failure failure)
        | .ok login => .answer ["registered " ++ login.username, cookieLine login.cookie],
        (service.register username password).2) := by
  simp only [registerReply]
  generalize service.register username password = result
  obtain ⟨outcome, after⟩ := result
  cases outcome with
  | error failure => rfl
  | ok login => rfl

theorem register_reply_settles (prompt : Prompt) (given : Option String) (notices : List Notice) :
    let ended := service.registerReply username (prompt.password true given)
    (Command.register username given).Settles service prompt
      (Report.ofReply ended.1 notices).exit
      (service.store.backing.Missed ended.2.store.backing)
      (service.store.backing.Took ended.2.store.backing) := by
  cases read : prompt.password true given with
  | error reason => exact Command.settles_of_refused ⟨[], .inl rfl⟩ (by simp [read])
  | ok password =>
      simp only [register_reply_eq]
      -- The early faults and the late ones come before the append, the session behind it.
      cases early : (service.earlyFaults username password).findSome? id with
      | some failure =>
          obtain ⟨journal, refused⟩ := register_refused_early early
          rw [refused]
          apply Command.settles_of_refused_password read
          · exact ⟨[], .inl rfl⟩
          · rintro ⟨clear, _⟩
            exact absurd (early.symm.trans clear) (Option.some_ne_none failure)
      | none =>
          obtain ⟨form, fresh⟩ := early_faults_eq_none.mp early
          cases late : service.lateFaults.findSome? id with
          | some failure =>
              obtain ⟨record, journal, backing, left, _, refused⟩ :=
                register_refused_late form fresh late
              rw [refused]
              apply Command.settles_of_refused_password read
              · exact ⟨record, left⟩
              · rintro ⟨_, clear, _⟩
                exact absurd (late.symm.trans clear) (Option.some_ne_none failure)
          | none =>
              obtain ⟨salt, session, journal, _, left, answered⟩ :=
                register_signs_in form fresh late
              have working : service.store.backing.appendFault = none := by
                have sound := List.findSome?_eq_none_iff.mp late
                simpa [lateFaults, Store.faults] using
                  sound (service.store.backing.appendFault.map .storage)
              have took : service.store.backing.Took
                  (service.register username password).2.store.backing
                  (service.newAccount username password salt) := by
                rw [left]
                exact ⟨working, rfl⟩
              have storable := Account.storable_new salt
                (service.newAccount username password salt).passwordHash
                service.settings.iterations (check_form_ok.mp form).1
              have registers : service.Registers username
                  (service.newAccount username password salt) :=
                ⟨rfl, rfl, rfl, encode_length _, Account.decode_encode storable⟩
              rcases answered with ⟨reason, dry, _, failed⟩ | ⟨bytes, delivered, _, signedIn⟩
              · have lacking : service.LacksSession username password :=
                  ⟨early, late, reason, dry⟩
                rw [failed]
                exact Command.settles_of_added read (.inr rfl) (iff_of_true lacking rfl)
                  registers took
              · have supplied : ¬ service.LacksSession username password := by
                  rintro ⟨_, _, failure, dry⟩
                  simp [delivered] at dry
                rw [signedIn]
                exact Command.settles_of_added read (.inl rfl)
                  (iff_of_false supplied Nat.zero_ne_one) registers took

end Service

theorem Report.exit_cases (reply : Reply) (notices : List Notice) :
    (ofReply reply notices).exit = 0 ∨ (ofReply reply notices).exit = 1 := by
  unfold ofReply
  simp only
  split
  · exact .inr rfl
  · exact .inl rfl

section

variable (config : Config) (backing : Backing) (entropy : Entropy)

def Config.service : Service :=
  ⟨config.settings, .load backing config.capacity.toNat, entropy⟩

theorem Command.run_other (prompt : Prompt) {command : Command}
    (other : ∀ username given, command ≠ .register username given) :
    (command.run config backing entropy prompt).backing = backing := by
  have opened : (Store.load backing config.capacity.toNat).backing = backing := Store.load_backing
  cases command with
  | register username given => exact absurd rfl (other username given)
  | login username given logout =>
      exact ((config.service backing entropy).login_reply_backing username _ logout).trans opened
  | inspect username => exact opened
  | list => exact opened
  | hash text => rfl
  | hmac key message => rfl
  | pbkdf2 salt iterations length password => rfl

theorem Command.run_settles (prompt : Prompt) (command : Command) (notices : List Notice) :
    let outcome := command.run config backing entropy prompt
    command.Settles (config.service backing entropy) prompt
      (Report.ofReply outcome.reply notices).exit
      (backing.Missed outcome.backing) (backing.Took outcome.backing) := by
  intro outcome
  by_cases registration : ∃ username given, command = .register username given
  · obtain ⟨username, given, rfl⟩ := registration
    have opened : (config.service backing entropy).store.backing = backing := Store.load_backing
    have settles :=
      (config.service backing entropy).register_reply_settles username prompt given notices
    rwa [opened] at settles
  · have other : ∀ username given, command ≠ .register username given := by
      rintro username given rfl
      exact registration ⟨username, given, rfl⟩
    exact Command.settles_of_other other (Report.exit_cases outcome.reply notices)
      ⟨[], .inl (Command.run_other config backing entropy prompt other)⟩

end

namespace Files

variable {files : Files} {path : String} {after : Backing}

theorem backing_all_or_none (allOrNone : files.AllOrNone) : (files.backing path).AllOrNone := by
  unfold Backing.AllOrNone backing
  cases (files.openFile (utf8 path)).1 with
  | error fault => rfl
  | ok spot => exact allOrNone

theorem save_missed (missed : (files.backing path).Missed after) (allOrNone : files.AllOrNone) :
    Furnished files (files.save (files.backing path) after) := by
  obtain ⟨record, left⟩ := missed
  rcases left.spared (backing_all_or_none allOrNone) with rfl | ⟨faulty, rfl⟩
  · exact .refl files
  -- The backing has its fault from these files, so an append to them fails as well.
  · exact append_furnished allOrNone faulty _

theorem save_took {account : Account} (took : (files.backing path).Took after account) :
    ∃ place, Appended files (files.save (files.backing path) after) (utf8 path) place
      account.encode := by
  obtain ⟨working, rfl⟩ := took
  have record : ((files.backing path).bytes ++ account.encode).drop
      ((files.backing path).content.getD []).length = account.encode := List.drop_left
  simp only [save, if_true, Option.getD_some, record]
  exact append_appended working account.encode

end Files

namespace Request

variable {request : Request} {files : Files} {environment : Environment} {entropy : Entropy}
  {prompt : Prompt}

theorem run_of_fault {fault : ConfigFault}
    (faulty : Config.loadOrDefault files request.config >>= prepare environment = .error fault) :
    request.run files environment entropy prompt = (.ofFault fault, files) := by
  rw [run, faulty]

theorem run_of_config {config : Config}
    (configured : Config.loadOrDefault files request.config >>= prepare environment = .ok config) :
    let backing := files.backing config.databasePath
    let outcome := request.command.run config backing entropy prompt
    request.run files environment entropy prompt =
      (.ofOutcome environment config outcome, files.save backing outcome.backing) := by
  intro backing outcome
  rw [run, configured]

theorem run_other {config : Config}
    (configured : Config.loadOrDefault files request.config >>= prepare environment = .ok config)
    (other : ∀ username given, request.command ≠ .register username given) :
    (request.run files environment entropy prompt).2 = files := by
  rw [run_of_config configured, Command.run_other _ _ _ _ other]
  rfl

/-- What a run does to the table of its configuration is done to the files. -/
theorem run_settles {config : Config}
    (configured : Config.loadOrDefault files request.config >>= prepare environment = .ok config) :
    let after := (request.run files environment entropy prompt).2
    request.command.Settles (config.service (files.backing config.databasePath) entropy) prompt
      (request.run files environment entropy prompt).1.exit
      (files.AllOrNone → files.Furnished after)
      fun account => ∃ place,
        files.Appended after (utf8 config.databasePath) place account.encode := by
  rw [run_of_config configured]
  exact (Command.run_settles config (files.backing config.databasePath) entropy prompt
    request.command _).imp Files.save_missed fun _ => Files.save_took

theorem run_extended : files.Extended (request.run files environment entropy prompt).2 := by
  cases configured : Config.loadOrDefault files request.config >>= prepare environment with
  | error fault =>
      rw [run_of_fault configured]
      exact .refl files
  | ok config =>
      rw [run_of_config configured]
      exact files.save_extended _ _

end Request

/-- What can happen between two looks at the file of a place. -/
inductive Files.Turn (place : List Name) : Files → Files → Prop where
  | run (request : Request) (files : Files) (environment : Environment) (entropy : Entropy)
      (prompt : Prompt) :
      Turn place files (request.run files environment entropy prompt).2
  /-- A command on this file, which may be unreadable or refuse the append for any reason. -/
  | command {before after : Files} (command : Command) (config : Config) (backing : Backing)
      (entropy : Entropy) (prompt : Prompt) (held : backing.content = before.contentAt place)
      (left : after.contentAt place =
        (command.run config backing entropy prompt).backing.content) :
      Turn place before after
  | aside {before after : Files} (same : after.contentAt place = before.contentAt place) :
      Turn place before after

theorem Files.Turn.content_at {place : List Name} {before after : Files}
    (turn : Turn place before after) {content : Bytes}
    (held : before.contentAt place = some content) :
    ∃ more, after.contentAt place = some (content ++ more) := by
  cases turn with
  | run request files environment entropy prompt =>
      exact Request.run_extended.content_at place content held
  | command command config backing entropy prompt same left =>
      rw [held] at same
      have bytes : backing.bytes = content := by rw [Backing.bytes, same, Option.getD_some]
      rw [left]
      rcases (command.run_settles config backing entropy prompt []).kept_or_added with
        ⟨record, missed⟩ | ⟨account, _, took⟩
      · obtain ⟨_, _, ended, _, unwritten | ⟨count, written⟩⟩ := missed.eq_with
        · exact ⟨[], by rw [ended, unwritten, same, List.append_nil]⟩
        · exact ⟨record.take count, by rw [ended, written, bytes]⟩
      · exact ⟨account.encode, by rw [took, bytes]⟩
  | aside same => exact ⟨[], by rw [same, held, List.append_nil]⟩

theorem Files.turns_content_at {place : List Name} {before after : Files}
    (turns : Relation.ReflTransGen (Turn place) before after) {content : Bytes}
    (held : before.contentAt place = some content) :
    ∃ more, after.contentAt place = some (content ++ more) := by
  induction turns with
  | refl => exact ⟨[], by rw [held, List.append_nil]⟩
  | tail earlier turn ih =>
      obtain ⟨more, between⟩ := ih
      obtain ⟨rest, ended⟩ := turn.content_at between
      exact ⟨more ++ rest, by rw [ended, List.append_assoc]⟩

namespace Request

/-- Over any history a file only grows at its end. A run that cannot be configured and a command
that does not register change no file at all; a registration adds the record of its account when
it succeeds or lacks nothing but a session, whether its password was given or typed. Otherwise it
changes no file if appends are all or none. The last part is the same for a backing that cannot be
read or appended to for any reason. -/
theorem runs_only_append_records :
    (∀ place before after, Relation.ReflTransGen (Files.Turn place) before after →
        ∀ content, before.contentAt place = some content →
          ∃ more, after.contentAt place = some (content ++ more)) ∧
      (∀ (request : Request) files environment entropy prompt,
        let report := (request.run files environment entropy prompt).1
        let after := (request.run files environment entropy prompt).2
        let configured := Config.loadOrDefault files request.config >>= prepare environment
        (∀ path content, files.read path = .ok content →
            ∃ more, after.read path = .ok (content ++ more)) ∧
          (∀ fault, configured = .error fault → report.exit = 1 ∧ after = files) ∧
          ∀ config, configured = .ok config →
            ((∀ username given, request.command ≠ .register username given) → after = files) ∧
              request.command.Settles
                (config.service (files.backing config.databasePath) entropy) prompt report.exit
                (files.AllOrNone → after.contentAt = files.contentAt)
                fun account => ∃ place,
                  files.Appended after (utf8 config.databasePath) place account.encode) ∧
      ∀ (command : Command) config backing entropy prompt environment,
        let outcome := command.run config backing entropy prompt
        ((∀ username given, command ≠ .register username given) → outcome.backing = backing) ∧
          command.Settles (config.service backing entropy) prompt
            (Report.ofOutcome environment config outcome).exit
            (backing.AllOrNone → outcome.backing.content = backing.content)
            fun account => outcome.backing.content = some (backing.bytes ++ account.encode) := by
  refine ⟨?_, ?_, ?_⟩
  · intro place before after turns content held
    exact Files.turns_content_at turns held
  · intro request files environment entropy prompt report after configured
    refine ⟨?_, ?_, ?_⟩
    · intro path content held
      exact run_extended.read held
    · intro fault faulty
      have stopped : request.run files environment entropy prompt = (.ofFault fault, files) :=
        run_of_fault faulty
      exact ⟨congrArg (fun ran => ran.1.exit) stopped, congrArg Prod.snd stopped⟩
    · intro config sound
      refine ⟨run_other sound, (run_settles sound).imp ?_ fun _ appended => appended⟩
      exact fun furnished allOrNone => (furnished allOrNone).content_at
  · intro command config backing entropy prompt environment outcome
    refine ⟨Command.run_other config backing entropy prompt, ?_⟩
    refine (Command.run_settles config backing entropy prompt command _).imp ?_ ?_
    · exact Backing.Missed.content_eq
    · rintro account ⟨_, took⟩
      exact congrArg Backing.content took

theorem record_of_alice_is_kept :
    let files :=
      (Files.emptyAt (utf8 "home")).withFile (utf8 "c") (utf8 "session_entropy_bytes = 1")
    let environment : Environment := ⟨some "users", some "1", none⟩
    let register : Request := ⟨some (utf8 "c"), .register "alice" none⟩
    let list : Request := ⟨none, .list⟩
    let source : Entropy := .ofScript [.ok [7], .ok [8]]
    let dry : Entropy := .ofScript [.ok [7], .error "dry"]
    let typed : Prompt := ⟨fun _ => .ok "secret"⟩
    let first := (register.run files environment source typed).2
    files.AllOrNone ∧ (register.run files environment source typed).1.exit = 0 ∧
      (register.run files environment dry typed).1.exit = 1 ∧
      (register.run files environment source .unattended).1.exit = 1 ∧
      (register.run files environment source .unattended).2.contentAt = files.contentAt ∧
      (list.run first ⟨none, some "0", none⟩ source typed).2 = first ∧
      ∃ (place : List Name) (account : Account), account.username = "alice" ∧
        account.iterations = 1 ∧ files.Appended first (utf8 "users") place account.encode ∧
        ∃ more, (register.run first environment dry typed).2.contentAt place =
          some ((files.contentAt place).getD [] ++ account.encode ++ more) := by
  intro files environment register list source dry typed first
  obtain ⟨grows, runs, _⟩ := runs_only_append_records
  let config : Config :=
    { Config.default with databasePath := "users", iterations := 1, sessionEntropy := 1 }
  have allOrNone : files.AllOrNone := rfl
  have configured : Config.loadOrDefault files register.config >>= prepare environment =
      .ok config := by decide +kernel
  have faulty : Config.loadOrDefault first list.config >>= prepare ⟨none, some "0", none⟩ =
      .error (.zero "iterations") := by decide +kernel
  have success : (register.run files environment source typed).1.exit = 0 := by decide +kernel
  have unread : (register.run files environment source .unattended).1.exit = 1 := by
    decide +kernel
  have lacking : (config.service (files.backing config.databasePath) dry).LacksSession "alice"
      "secret" := ⟨by decide +kernel, by decide +kernel, .entropy "dry", rfl⟩
  obtain ⟨_, _, registering⟩ := runs register files environment source typed
  obtain ⟨account, registers, place, appended⟩ :=
    (registering config configured).2.succeeded "alice" none rfl success
  obtain ⟨_, _, drying⟩ := runs register files environment dry typed
  obtain ⟨failure, _⟩ :=
    (drying config configured).2.sessionless "alice" none "secret" rfl rfl lacking
  obtain ⟨_, _, asking⟩ := runs register files environment source .unattended
  have kept := (asking config configured).2.failed "alice" none rfl unread nofun allOrNone
  obtain ⟨_, stopped, _⟩ := runs list first ⟨none, some "0", none⟩ source typed
  have written : first.contentAt place =
      some ((files.contentAt place).getD [] ++ account.encode) := by
    rw [appended.content_eq, Function.update_self]
  have later := grows place first (register.run first environment dry typed).2
    (.single (.run register first environment dry typed)) _ written
  exact ⟨allOrNone, success, failure, unread, kept, (stopped _ faulty).2, place, account,
    registers.username_eq, registers.iterations_eq, appended, later⟩

end Request

end Accounts
