import HeapScope.Proofs.Server.Starting
import HeapScope.Proofs.Settings.Addresses
import HeapScope.Settings.Environment
import HeapScope.Settings.File

namespace HeapScope

namespace Settings

inductive Loaded (settings : Settings) : Prop where
  | yaml (reader : String → Option Settings) (text : String) (read : ofYaml text reader = .ok settings)
  | file (reader : String → Option Settings) (content : Option String)
    (read : ofFile content reader = .ok settings)
  | environment (given : Settings) (lookup : String → Option String)
    (read : given.withEnvironment lookup = .ok settings)

theorem validated_ok {given settings : Settings} (done : validated given = .ok settings) :
    given = settings ∧ settings.validate = .ok () := by
  cases checked : given.validate with
  | error error =>
    rw [validated, checked] at done
    cases done
  | ok passed =>
    rw [validated, checked] at done
    cases done
    exact ⟨rfl, checked⟩

theorem yaml_validated {reader : String → Option Settings} {text : String} {settings : Settings}
    (read : ofYaml text reader = .ok settings) : settings.validate = .ok () := by
  unfold ofYaml at read
  split at read
  · cases read
  · exact (validated_ok read).2

theorem environment_validated {given settings : Settings} {lookup : String → Option String}
    (read : given.withEnvironment lookup = .ok settings) : settings.validate = .ok () := by
  obtain ⟨enabled, _, read⟩ := Wire.except_bind_ok read
  obtain ⟨port, _, read⟩ := Wire.except_bind_ok read
  obtain ⟨bindAddress, _, read⟩ := Wire.except_bind_ok read
  obtain ⟨waitForClient, _, read⟩ := Wire.except_bind_ok read
  exact (validated_ok read).2

theorem loaded_validated {settings : Settings} (loaded : settings.Loaded) :
    settings.validate = .ok () := by
  cases loaded with
  | yaml reader text read => exact yaml_validated read
  | file reader content read =>
    cases content with
    | none => cases read
    | some text => exact yaml_validated read
  | environment given lookup read => exact environment_validated read

theorem override_again {lookup : String → Option String} {name : String} {value found : α}
    {read : String → String → Except Error α} (reads : override lookup name value read = .ok found) :
    override lookup name found read = .ok found := by
  unfold override at reads ⊢
  cases set : lookup name with
  | none => rfl
  | some text =>
    rw [set] at reads
    exact reads

theorem environment_again {given settings : Settings} {lookup : String → Option String}
    (read : given.withEnvironment lookup = .ok settings) :
    settings.withEnvironment lookup = .ok settings := by
  obtain ⟨enabled, first, read⟩ := Wire.except_bind_ok read
  obtain ⟨port, second, read⟩ := Wire.except_bind_ok read
  obtain ⟨bindAddress, third, read⟩ := Wire.except_bind_ok read
  obtain ⟨waitForClient, fourth, read⟩ := Wire.except_bind_ok read
  obtain ⟨rfl, _⟩ := validated_ok read
  simp only [withEnvironment, override_again first, override_again second, override_again third,
    override_again fourth]
  exact read

theorem address_letters (settings : Settings) :
    settings.addressText.toList = settings.bindAddress.toList ++ ':' :: Nat.toDigits 10 settings.port.toNat := by
  simp [addressText]

theorem socket_address_iff {settings : Settings} {address : SocketAddress} :
    settings.socketAddress = .ok address ↔
      Host.Denotes settings.bindAddress.toList address.host ∧ address.port = settings.port := by
  have denotes : SocketAddress.ofText? settings.addressText = some address ↔
      Host.Denotes settings.bindAddress.toList address.host ∧ address.port = settings.port := by
    rw [SocketAddress.ofText?, SocketAddress.of_chars_iff, address_letters, SocketAddress.port_kept]
  rw [← denotes, socketAddress]
  cases SocketAddress.ofText? settings.addressText with
  | none => simp [refused]
  | some other => simp

theorem validate_ok {settings : Settings} (valid : settings.validate = .ok ()) :
    settings.serverName ≠ "" ∧ leastFrameLimit ≤ settings.frameLimit ∧
      ∃ address, settings.socketAddress = .ok address := by
  by_cases unnamed : settings.serverName.isEmpty = true
  · rw [validate, if_pos unnamed] at valid
    cases valid
  · by_cases short : settings.frameLimit < leastFrameLimit
    · rw [validate, if_neg unnamed, if_pos short] at valid
      cases valid
    · rw [validate, if_neg unnamed, if_neg short] at valid
      refine ⟨fun empty => unnamed (empty ▸ rfl), Nat.not_lt.mp short, ?_⟩
      cases bound : settings.socketAddress with
      | error error =>
        rw [bound] at valid
        cases valid
      | ok address => exact ⟨address, rfl⟩

end Settings

section Starting

variable {σ : Type} [Sink σ] {settings : Settings}

theorem start_blames_nobody {server : Server σ} {wanted : SocketAddress}
    (named : server.settings.socketAddress = .ok wanted) (machine : Server.Machine σ) (reason : String) :
    (server.start machine).1 ≠ .error (.badSettings reason) := by
  intro failed
  obtain ⟨next, fails⟩ : ∃ next, server.start machine = (.error (.badSettings reason), next) :=
    ⟨_, Prod.ext failed rfl⟩
  cases Server.start_fails_iff.mp fails with
  | nowhere _ bad => cases named.symm.trans bad
  | stranded _ _ strands => rcases Server.stranded_error strands with other | other | other <;> cases other

theorem settings_stay {events : List String} {made server : Server σ} {spaces : List SpaceDescriptor}
    {build : Build} (created : Server.make settings events build = .ok made)
    (registered : Channel.addSpaces made spaces = .ok server) (steps : List (Step σ)) :
    ((World.ofServer server).run steps).server.settings = settings := by
  have fresh := Server.add_spaces_fresh (Server.make_fresh created).1 registered
  have begun : (announcing server.info).Kept (fun _ => True) settings server.info (World.ofServer server) :=
    ⟨Custody.fresh_holds _ fresh, nofun⟩
  have kept := Custody.run_kept (announcing_keeps settings server.info) begun steps fun _ _ _ => trivial
  exact kept.holds.settings

structure Settings.Bindable (σ : Type) [Sink σ] (settings : Settings) : Prop where
  named : settings.serverName ≠ ""
  roomy : 64 ≤ settings.frameLimit
  bound : ∃ host, (∀ other, Host.Denotes settings.bindAddress.toList other ↔ other = host) ∧
    settings.socketAddress = .ok ⟨host, settings.port⟩
  port_kept : ∀ (bindAddress : String) (address : SocketAddress),
    SocketAddress.Denotes { settings with bindAddress }.addressText.toList address →
    Host.Denotes bindAddress.toList address.host ∧ address.port = settings.port
  serves : ∀ events build, ∃ made : Server σ, Server.make settings events build = .ok made ∧
    ∀ spaces server, Channel.addSpaces made spaces = .ok server → ∀ steps machine reason,
      (((World.ofServer server).run steps).server.start machine).1 ≠ .error (.badSettings reason)
  again : ∀ (given : Settings) (lookup : String → Option String),
    given.withEnvironment lookup = .ok settings → settings.withEnvironment lookup = .ok settings

theorem loaded_settings_bind (loaded : settings.Loaded) : settings.Bindable σ := by
  have valid := Settings.loaded_validated loaded
  obtain ⟨named, roomy, address, bound⟩ := Settings.validate_ok valid
  refine
    { named, roomy, bound := ?_, port_kept := ?_, serves := ?_,
      again := fun given lookup => Settings.environment_again }
  · obtain ⟨denotes, own⟩ := Settings.socket_address_iff.mp bound
    refine ⟨address.host, fun other => ⟨fun also => ?_, fun same => same ▸ denotes⟩, own ▸ bound⟩
    have found := (Host.of_chars_iff.mpr also).symm.trans (Host.of_chars_iff.mpr denotes)
    exact Option.some.inj found
  · intro bindAddress other denotes
    rw [Settings.address_letters] at denotes
    exact SocketAddress.port_kept.mp denotes
  · intro events build
    obtain ⟨made, created⟩ : ∃ made : Server σ, Server.make settings events build = .ok made := by
      rw [Server.make, valid]
      exact ⟨_, rfl⟩
    refine ⟨made, created, fun spaces server registered steps => ?_⟩
    have stays := settings_stay created registered steps
    exact start_blames_nobody (stays ▸ bound)

-- A bracketed bind address that ends in digits, and a port that comes from the environment.
theorem zoned_settings_bind :
    let text := "bindAddress: '[fe80::1%30]'\nport: 4100\n"
    let lookup (name : String) : Option String := if name = "GCSPY_PORT" then some " +80 " else none
    ∃ written settings, Settings.ofYaml text = .ok written ∧
      written.withEnvironment lookup = .ok settings ∧
      (∃ host, Host.Denotes "[fe80::1%30]".toList host ∧
        written.socketAddress = .ok ⟨host, 4100⟩ ∧ settings.socketAddress = .ok ⟨host, 80⟩) ∧
      (∃ made : Server MemorySink, Server.make settings ["gc"] = .ok made) ∧
      settings.withEnvironment lookup = .ok settings := by
  intro text lookup
  have loads : (Settings.ofYaml text).toOption.any (fun written =>
      (written.withEnvironment lookup).toOption.any (fun settings =>
        decide (written.port = 4100 ∧ written.bindAddress = "[fe80::1%30]" ∧
          settings.port = 80 ∧ settings.bindAddress = "[fe80::1%30]"))) = true := by
    simp only [text, lookup]
    decide +kernel
  obtain ⟨written, read, found⟩ := Wire.except_any_ok loads
  obtain ⟨settings, overlaid, passes⟩ := Wire.except_any_ok found
  obtain ⟨writtenPort, writtenAddress, port, bindAddress⟩ := of_decide_eq_true passes
  have first := loaded_settings_bind (σ := MemorySink) (.yaml Settings.read? text read)
  have second := loaded_settings_bind (σ := MemorySink) (.environment written lookup overlaid)
  obtain ⟨host, denotes, bound⟩ := first.bound
  obtain ⟨same, denotesToo, boundToo⟩ := second.bound
  rw [writtenPort] at bound
  rw [port] at boundToo
  rw [writtenAddress] at denotes
  rw [bindAddress] at denotesToo
  obtain ⟨made, created, _⟩ := second.serves ["gc"] {}
  have named := (denotes host).mpr rfl
  cases (denotesToo host).mp named
  exact ⟨written, settings, read, overlaid, ⟨host, named, bound, boundToo⟩, ⟨made, created⟩,
    second.again written lookup overlaid⟩

end Starting

end HeapScope
