import NodeLookup.Proofs.Lookup.Requests
import NodeLookup.Proofs.Settings.Merging

/-!
# What comes of a command

The name of a node is known without settings. Every other command needs all of them: either
`Options.Hindrance` names the one reason why it is not put to the cloud, or the options lead to one
resolver, and the command's outcome is the reply of that resolver to one question. `execute_outcome`
puts these together.
-/

namespace NodeLookup

namespace Options

variable {options : Options} {fileAt : String → FileState} {resolver : Resolver} {error : CommandError}

/-- Something about options keeps every command from the cloud. The reasons stand in the order in which
they count: each one supposes that those before it do not apply. -/
inductive Hindrance (options : Options) (fileAt : String → FileState) : CommandError → Prop where
  | file {error : SettingsError} (fails : options.FileFails fileAt error) :
      Hindrance options fileAt (.settings error)
  | noEndpoint {file : PartialSettings} (gives : options.FileGives fileAt file)
      (nowhere : ∀ endpoint, ¬(options.flags.or file).Locates endpoint) :
      Hindrance options fileAt (.settings .noEndpoint)
  | noProject {file : PartialSettings} {endpoint : String} (gives : options.FileGives fileAt file)
      (locates : (options.flags.or file).Locates endpoint)
      (unnamed : nonempty? (options.flags.or file).projectId = none) :
      Hindrance options fileAt (.settings .noProject)
  | notUrl {file : PartialSettings} {settings : Settings} {flaw : Url.Flaw}
      (gives : options.FileGives fileAt file)
      (completes : (options.flags.or file).Completes settings)
      (flawed : Url.parse settings.endpoint.toList = .error flaw) :
      Hindrance options fileAt (.client (.invalidUrl flaw))
  | notBase {file : PartialSettings} {settings : Settings} {endpoint : Url}
      (gives : options.FileGives fileAt file)
      (completes : (options.flags.or file).Completes settings)
      (parsed : Url.parse settings.endpoint.toList = .ok endpoint)
      (notBase : endpoint.isBase = false) :
      Hindrance options fileAt
        (.client (.invalidConfig (Client.unusableEndpoint settings.endpoint)))

/-- Options lead to a resolver: the command line over the file completes settings that describe it. -/
inductive LeadTo (options : Options) (fileAt : String → FileState) (resolver : Resolver) : Prop where
  | through {file : PartialSettings} {settings : Settings} (gives : options.FileGives fileAt file)
      (completes : (options.flags.or file).Completes settings)
      (describes : settings.Describes resolver)

/-- Options that nothing keeps from the cloud lead to a resolver. -/
theorem hindrance_or_leadTo (options : Options) (fileAt : String → FileState) :
    (∃ error, options.Hindrance fileAt error) ∨ ∃ resolver, options.LeadTo fileAt resolver := by
  obtain ⟨file, gives⟩ | ⟨error, fails⟩ := options.fileGives_or_fileFails fileAt
  · obtain none | none | ⟨settings, made⟩ := Settings.ofMerged_cases (options.flags.or file)
    · exact .inl ⟨_, .noEndpoint gives (Settings.ofMerged_eq_noEndpoint_iff.mp none)⟩
    · obtain ⟨⟨endpoint, locates⟩, unnamed⟩ := Settings.ofMerged_eq_noProject_iff.mp none
      exact .inl ⟨_, .noProject gives locates unnamed⟩
    · have completes := Settings.ofMerged_eq_ok_iff.mp made
      have named := (nonempty?_eq_some_iff.mp completes.project).2
      cases parsed : Url.parse settings.endpoint.toList with
      | error flaw => exact .inl ⟨_, .notUrl gives completes parsed⟩
      | ok endpoint =>
        cases base : endpoint.isBase with
        | false => exact .inl ⟨_, .notBase gives completes parsed base⟩
        | true =>
          have made := Resolver.ofSettings_of_base named parsed base
          exact .inr ⟨_, .through gives completes (Resolver.ofSettings_eq_ok_iff.mp made)⟩
  · exact .inl ⟨_, .file fails⟩

end Options

namespace Command

variable {options : Options} {surroundings : Surroundings} {found : Resolver}

/-- What keeps a command from the cloud is why no resolver is built. -/
theorem resolver_of_hindrance {error : CommandError}
    (hindrance : options.Hindrance surroundings.fileAt error) :
    resolver options surroundings = .error error := by
  cases hindrance with
  | file fails =>
    rw [resolver, Options.settings_of_fileFails fails]
    rfl
  | noEndpoint gives nowhere =>
    rw [resolver, Options.settings_of_fileGives gives,
      Settings.ofMerged_eq_noEndpoint_iff.mpr nowhere]
    rfl
  | noProject gives locates unnamed =>
    rw [resolver, Options.settings_of_fileGives gives,
      Settings.ofMerged_eq_noProject_iff.mpr ⟨⟨_, locates⟩, unnamed⟩]
    rfl
  | @notUrl file settings flaw gives completes flawed =>
    have named := (nonempty?_eq_some_iff.mp completes.project).2
    rw [resolver, Options.settings_of_fileGives gives, Settings.ofMerged_eq_ok_iff.mpr completes]
    simp only [Except.mapError, bind, Except.bind, Resolver.ofSettings_of_flaw named flawed]
  | @notBase file settings endpoint gives completes parsed notBase =>
    have named := (nonempty?_eq_some_iff.mp completes.project).2
    rw [resolver, Options.settings_of_fileGives gives, Settings.ofMerged_eq_ok_iff.mpr completes]
    simp only [Except.mapError, bind, Except.bind,
      Resolver.ofSettings_of_not_base named parsed notBase]

/-- The resolver that options lead to is the one that is built. -/
theorem resolver_of_leadTo (leads : options.LeadTo surroundings.fileAt found) :
    resolver options surroundings = .ok found := by
  obtain ⟨gives, completes, describes⟩ := leads
  rw [resolver, Options.settings_of_fileGives gives, Settings.ofMerged_eq_ok_iff.mpr completes]
  simp only [Except.mapError, bind, Except.bind, Resolver.ofSettings_eq_ok_iff.mpr describes]

/-- An outcome is what comes of a reply: it takes the same requests, and has the value of the answer or
the error as it is. -/
structure Carries {α : Type} (outcome : Exchanged (Except CommandError Json.Value))
    (reply : Reply α) (value : α → Json.Value) : Prop where
  requests : outcome.requests = reply.requests
  ok : ∀ answer, reply.result = .ok answer → outcome.result = .ok (value answer)
  error : ∀ error, reply.result = .error error → outcome.result = .error (.contract error)

/-- What comes of a reply carries it. -/
theorem carries_outcome {α : Type} (reply : Reply α) (value : α → Json.Value) :
    Carries (outcome reply value) reply value where
  requests := rfl
  ok answer answered := by simp [outcome, answered, Except.map, Except.mapError]
  error error failed := by simp [outcome, failed, Except.map, Except.mapError]

/-- The answer for the name of a node is that of the machine, and no resolver plays a part. -/
theorem answer_currentNodeName (given : Option String) (host : HostState) (resolver : Resolver)
    (backend : Backend) : (currentNodeName given).answer host (resolver.instances backend) =
      .silent (((host.nameOr given).map .string).mapError .settings) := by
  rw [answer]
  cases host.nameOr given <;> rfl

/-- Every other command stands for one question. -/
theorem exists_question {command : Command} (other : ∀ given, command ≠ .currentNodeName given) :
    ∃ (α : Type) (question : Question α) (value : α → Json.Value),
      ∀ (host : HostState) (resolver : Resolver) (backend : Backend),
        command.answer host (resolver.instances backend) =
          outcome (resolver.ask question backend) value := by
  cases command with
  | nodeAddresses providerId =>
    exact ⟨_, .nodeAddressesByProviderId providerId, _, fun _ _ _ => rfl⟩
  | instanceType providerId =>
    exact ⟨_, .instanceTypeByProviderId providerId, _, fun _ _ _ => rfl⟩
  | instanceExists providerId =>
    exact ⟨_, .instanceExistsByProviderId providerId, _, fun _ _ _ => rfl⟩
  | instanceShutdown providerId =>
    exact ⟨_, .instanceShutdownByProviderId providerId, _, fun _ _ _ => rfl⟩
  | instanceId nodeName => exact ⟨_, .instanceId nodeName, _, fun _ _ _ => rfl⟩
  | currentNodeName given => exact absurd rfl (other given)

/-- Every command but that for the name of a node is put to the cloud. -/
theorem execute_eq_ask {command : Command} (other : ∀ given, command ≠ .currentNodeName given) :
    command.execute options surroundings = command.ask options surroundings := by
  cases command with
  | currentNodeName given => exact absurd rfl (other given)
  | _ => rfl

/-- Such a command is not put to it where something keeps it. -/
theorem execute_of_hindrance {error : CommandError}
    (hindrance : options.Hindrance surroundings.fileAt error) {command : Command}
    (other : ∀ given, command ≠ .currentNodeName given) :
    command.execute options surroundings = .silent (.error error) := by
  rw [execute_eq_ask other, ask, resolver_of_hindrance hindrance]

/-- Otherwise it is put to the resolver that the options lead to. -/
theorem execute_of_leadTo (leads : options.LeadTo surroundings.fileAt found) {command : Command}
    (other : ∀ given, command ≠ .currentNodeName given) :
    command.execute options surroundings =
      command.answer surroundings.hostname (found.instances surroundings.backend) := by
  rw [execute_eq_ask other, ask, resolver_of_leadTo leads]

/-- The outcome carries the reply that the answer is made of. -/
theorem carries_of_leadTo {α : Type} (leads : options.LeadTo surroundings.fileAt found)
    {command : Command} {reply : Reply α} {value : α → Json.Value}
    (other : ∀ given, command ≠ .currentNodeName given)
    (answer : command.answer surroundings.hostname (found.instances surroundings.backend) =
      outcome reply value) :
    Carries (command.execute options surroundings) reply value := by
  rw [execute_of_leadTo leads other, answer]
  exact carries_outcome reply value

/-- A command gives one request at most to the HTTP client, and all that arrives on a network is a chain of
redirections. -/
theorem requests_execute (leads : options.LeadTo surroundings.fileAt found) (command : Command)
    (http : HttpClient) (network : Network) :
    (command.execute options surroundings).requests.length ≤ 1 ∧
      http.Chains network (http.run network fun backend =>
        command.execute options { surroundings with backend }).requests := by
  by_cases named : ∃ given, command = .currentNodeName given
  · obtain ⟨given, rfl⟩ := named
    exact ⟨Nat.zero_le 1, HttpClient.chains_nil⟩
  have other := not_exists.mp named
  obtain ⟨α, question, value, answered⟩ := exists_question other
  have executed : ∀ backend, command.execute options { surroundings with backend } =
      outcome (found.ask question backend) value := by
    intro backend
    have leadsThere : options.LeadTo { surroundings with backend }.fileAt found := leads
    rw [execute_of_leadTo leadsThere other, answered]
  obtain ⟨gives, completes, describes⟩ := leads
  constructor
  · rw [executed surroundings.backend]
    exact (Resolver.requests_ask describes question surroundings.backend).1
  · rw [funext executed]
    exact (Resolver.chains_ask describes question http network).1

/-- What comes of each command, for all options and whatever is around. The name of a node is the name
that is given, or the machine's if that can be told, and no question to any resolver has another answer.
For all other commands, the one reason why they are not put to the cloud is the error, and nothing is sent;
without such a reason, the options lead to one resolver, and the outcome carries its reply to the one
question that the command stands for. Then one request at most is given to the HTTP client, and on a
network it is followed only by those that it is redirected to. -/
theorem execute_outcome (options : Options) (surroundings : Surroundings) (http : HttpClient)
    (network : Network) :
    ((∀ hostname, (currentNodeName (some hostname)).execute options surroundings =
        .silent (.ok (.string hostname))) ∧
      ∀ given, (currentNodeName given).execute options surroundings =
          .silent (((surroundings.hostname.nameOr given).map .string).mapError .settings) ∧
        ∀ (resolver : Resolver) (backend : Backend),
          (currentNodeName given).answer surroundings.hostname (resolver.instances backend) =
            (currentNodeName given).execute options surroundings) ∧
    (∀ error, options.Hindrance surroundings.fileAt error →
      ∀ command : Command, (∀ given, command ≠ .currentNodeName given) →
        command.execute options surroundings = .silent (.error error)) ∧
    (∀ resolver, options.LeadTo surroundings.fileAt resolver →
      let instances := resolver.instances surroundings.backend
      (∀ providerId, Carries ((nodeAddresses providerId).execute options surroundings)
        (instances.nodeAddressesByProviderId providerId)
        fun addresses => .list (addresses.map NodeAddress.toValue)) ∧
      (∀ providerId, Carries ((instanceType providerId).execute options surroundings)
        (instances.instanceTypeByProviderId providerId) .string) ∧
      (∀ providerId, Carries ((instanceExists providerId).execute options surroundings)
        (instances.instanceExistsByProviderId providerId) .boolean) ∧
      (∀ providerId, Carries ((instanceShutdown providerId).execute options surroundings)
        (instances.instanceShutdownByProviderId providerId) .boolean) ∧
      (∀ nodeName, Carries ((instanceId nodeName).execute options surroundings)
        (instances.instanceId nodeName) .string) ∧
      ∀ command : Command, (command.execute options surroundings).requests.length ≤ 1 ∧
        http.Chains network (http.run network fun backend =>
          command.execute options { surroundings with backend }).requests) ∧
    ((∃! error, options.Hindrance surroundings.fileAt error) ∧
        (∀ resolver, ¬options.LeadTo surroundings.fileAt resolver) ∨
      (∃! resolver, options.LeadTo surroundings.fileAt resolver) ∧
        ∀ error, ¬options.Hindrance surroundings.fileAt error) := by
  refine ⟨⟨fun hostname => rfl, fun given => ⟨rfl, fun resolver backend =>
    answer_currentNodeName given _ resolver backend⟩⟩, fun error hindrance command other =>
      execute_of_hindrance hindrance other, fun found leads => ?_, ?_⟩
  · exact ⟨fun _ => carries_of_leadTo leads (by simp) rfl,
      fun _ => carries_of_leadTo leads (by simp) rfl,
      fun _ => carries_of_leadTo leads (by simp) rfl,
      fun _ => carries_of_leadTo leads (by simp) rfl,
      fun _ => carries_of_leadTo leads (by simp) rfl,
      fun command => requests_execute leads command http network⟩
  · obtain ⟨error, hindrance⟩ | ⟨found, leads⟩ :=
      options.hindrance_or_leadTo surroundings.fileAt
    · refine .inl ⟨⟨error, hindrance, fun other hinders => ?_⟩, fun found leads => ?_⟩
      · have both := (resolver_of_hindrance hinders).symm.trans (resolver_of_hindrance hindrance)
        exact Except.error.inj both
      · cases (resolver_of_hindrance hindrance).symm.trans (resolver_of_leadTo leads)
    · refine .inr ⟨⟨found, leads, fun other leadsThere => ?_⟩, fun error hinders => ?_⟩
      · have both := (resolver_of_leadTo leadsThere).symm.trans (resolver_of_leadTo leads)
        exact Except.ok.inj both
      · cases (resolver_of_leadTo leads).symm.trans (resolver_of_hindrance hinders)

/-- The command line gives all that is needed, and a file besides, if it is named. -/
def givingAll (configFile : Option String) : Options where
  configFile := configFile
  flags := { endpoint := some "http://h", projectId := some "p" }

/-- A machine without files whose cloud does not answer. -/
def bareMachine : Surroundings where
  fileAt _ := .missing
  hostname := "m"
  backend _ := .unanswered

/-- A file that is missing counts although the command line gives all that is needed. Where none is named
the question is asked. -/
theorem execute_outcome_missingFile :
    (givingAll (some "f")).Hindrance bareMachine.fileAt (.settings (.unopened "f")) ∧
      (∀ providerId, (instanceExists providerId).execute (givingAll (some "f")) bareMachine =
        .silent (.error (.settings (.unopened "f")))) ∧
      (givingAll none).LeadTo bareMachine.fileAt Resolver.atRoot ∧
      ∀ providerId, Carries ((instanceExists providerId).execute (givingAll none) bareMachine)
        ((Resolver.atRoot.instances bareMachine.backend).instanceExistsByProviderId providerId)
        .boolean := by
  have missing : (givingAll (some "f")).Hindrance bareMachine.fileAt (.settings (.unopened "f")) :=
    .file (.unopened rfl rfl)
  have completes : ((givingAll none).flags.or {}).Completes Settings.atRoot :=
    ⟨.given (by decide), by decide, rfl, rfl, rfl, rfl⟩
  have describes : Settings.atRoot.Describes Resolver.atRoot :=
    Resolver.ofSettings_eq_ok_iff.mp (by decide)
  have leads : (givingAll none).LeadTo bareMachine.fileAt Resolver.atRoot :=
    .through (.unnamed rfl) completes describes
  obtain ⟨-, stopped, -, -⟩ := execute_outcome (givingAll (some "f")) bareMachine HttpClient.plain
    fun _ _ => .unanswered
  obtain ⟨-, -, asked, -⟩ := execute_outcome (givingAll none) bareMachine HttpClient.plain
    fun _ _ => .unanswered
  obtain ⟨-, -, existence, -⟩ := asked _ leads
  exact ⟨missing, fun _ => stopped _ missing _ (by simp), leads, existence⟩

/-- A command whose request is redirected makes two requests, and the name of the machine is told without an
endpoint and without a project. -/
theorem redirection_makes_second_request :
    ((HttpClient.plain.run (.redirecting { status := 404 }) fun backend =>
        (instanceId "n").execute (givingAll none) { bareMachine with backend }).requests.map
          (String.ofList ·.url.render)) =
      ["http://h/v1/p/cloudservers/detail?name=n", "http://m/"] ∧
    Options.Hindrance {} bareMachine.fileAt (.settings .noEndpoint) ∧
    (currentNodeName none).execute {} bareMachine = .silent (.ok (.string "m")) := by
  refine ⟨by decide, .noEndpoint (.unnamed rfl) ?_, rfl⟩
  exact Settings.ofMerged_eq_noEndpoint_iff.mp (by decide)

end Command

end NodeLookup
