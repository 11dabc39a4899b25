import OneHost.Certificate.Encoding
import OneHost.Proofs.Connection.Securing
import OneHost.Proofs.Trust.Acceptance
import OneHost.Session.Basic

/-!
# Encrypted sessions

The settings of a session fix, before anything is sent, under which name the servers are asked for
and which verifier judges them. Whatever happens afterwards, no request is written to a connection
whose server has not been judged so.
-/

namespace OneHost.Session

open Connection (Channel Input Transport writes)

variable {settings : Settings} {folder : Folder} {judge : Trust.Roots → Trust.Delegate}
variable {events : List Event}

/-- The servers of encrypted connections are judged by a verifier that is pinned to the hostname. -/
theorem verifier_of_make {hostname : String} {roots : Trust.Roots} {client : Trust.Client}
    (made : Trust.Client.make judge hostname roots = .ok client) :
    Trust.Verifier.make hostname (judge roots) = .ok client.verifier := by
  unfold Trust.Client.make at made
  split at made
  · contradiction
  · split at made
    · rename_i verifier pinned
      cases made
      exact pinned
    · contradiction

/-- Encrypted connections need roots of trust and a client that is pinned to the hostname. -/
theorem client?_eq_ok_iff {end? : Option Trust.Client} (https : settings.protocol = .https) :
    client? settings folder judge = (.ok end?, events) ↔
      ∃ roots client, Trust.Roots.ofSettings settings.trust folder = (.ok roots, events) ∧
        Trust.Client.make judge settings.hostname roots = .ok client ∧ end? = some client := by
  have isEncrypted : settings.protocol.isEncrypted = true := congrArg Protocol.isEncrypted https
  rw [client?, if_pos isEncrypted]
  generalize Trust.Roots.ofSettings settings.trust folder = loaded
  obtain ⟨roots, loading⟩ := loaded
  cases roots with
  | error error => simp
  | ok roots =>
    cases made : Trust.Client.make judge settings.hostname roots with
    | error error => simp [made]
    | ok client => simp [made, eq_comm, and_comm]

theorem secure_eq_ok_iff {hostname : String} {client : Trust.Client} {channel : Channel} :
    Channel.secure hostname client = .ok channel ↔
      ∃ name, ServerName.parse? hostname = some name ∧
        channel = .encrypted hostname name client := by
  unfold Channel.secure
  cases ServerName.parse? hostname with
  | none => simp
  | some name => simp [eq_comm]

/-- The transport of settings that ask for encrypted connections. -/
theorem transport_eq_ok_iff {built : Transport} (https : settings.protocol = .https) :
    transport settings folder judge = (.ok built, events) ↔
      ∃ roots client name, Trust.Roots.ofSettings settings.trust folder = (.ok roots, events) ∧
        Trust.Client.make judge settings.hostname roots = .ok client ∧
        ServerName.parse? settings.hostname = some name ∧
        built = .make (.encrypted settings.hostname name client)
          (.ofMilliseconds settings.connectTimeout.toNat) settings.cache.limits := by
  rw [transport]
  constructor
  · intro hasTransport
    split at hasTransport
    · simp at hasTransport
    · rename_i end? loading hasClient
      obtain ⟨roots, client, loaded, made, rfl⟩ := (client?_eq_ok_iff https).mp hasClient
      rw [https] at hasTransport
      split at hasTransport
      · simp at hasTransport
      · rename_i channel hasChannel
        obtain ⟨name, parsed, rfl⟩ := secure_eq_ok_iff.mp hasChannel
        cases hasTransport
        exact ⟨roots, client, name, loaded, made, parsed, rfl⟩
  · rintro ⟨roots, client, name, loaded, made, parsed, rfl⟩
    have hasClient := (client?_eq_ok_iff https).mpr ⟨roots, client, loaded, made, rfl⟩
    have hasChannel : Channel.ofProtocol .https settings.hostname (some client) =
      .ok (.encrypted settings.hostname name client) := secure_eq_ok_iff.mpr ⟨name, parsed, rfl⟩
    simp only [hasClient, https, hasChannel]

theorem exists_events {α β : Type} {outcome : Except α Transport × List β} {built : Transport}
    (isBuilt : built ∈ outcome.1.toOption) : ∃ events, outcome = (.ok built, events) := by
  obtain ⟨result, events⟩ := outcome
  cases result with
  | error error => contradiction
  | ok other =>
    cases isBuilt
    exact ⟨events, rfl⟩

/-- A session that asks for encrypted connections is pinned to its hostname: over every run of its
transport a request is only ever written to a connection for its address that the connection's
maker got secured, telling the server this hostname, by a certificate that the verifier pinned to
this hostname accepted. So it is whether the connection is new or was found idle. -/
theorem requests_reach_verified_servers {built : Transport} (https : settings.protocol = .https)
    (hasTransport : transport settings folder judge = (.ok built, events)) :
    ∃ roots name verifier, Trust.Roots.ofSettings settings.trust folder = (.ok roots, events) ∧
      ServerName.parse? settings.hostname = some name ∧
      Trust.Verifier.make settings.hostname (judge roots) = .ok verifier ∧
      ∀ (inputs : List Input) (input : Input) (id connection : Nat) (address : SocketAddress)
        (request : Http.Request),
        .write id connection address request ∈ ((built.run inputs).1.step input).2 →
          ∃ maker first leaf,
            (writes connection (built.run (inputs ++ [input])).2).head? = some (maker, first) ∧
            built.Secures verifier name inputs maker address (some ⟨name, leaf⟩) ∧
            (built.run (inputs ++ [input])).1.making? connection =
              some (address, some ⟨name, leaf⟩) := by
  obtain ⟨roots, client, name, loaded, made, parsed, rfl⟩ :=
    (transport_eq_ok_iff https).mp hasTransport
  refine ⟨roots, name, client.verifier, loaded, parsed, verifier_of_make made, ?_⟩
  intro inputs input id connection address request written
  have wellFormed := (Transport.WellFormed.of_make (.encrypted settings.hostname name client)
    (.ofMilliseconds settings.connectTimeout.toNat) settings.cache.limits).run inputs
  obtain ⟨maker, first, secured, isFirst, isMade, secures⟩ :=
    Transport.secures_of_write (.of_run ..) (.of_run ..) wellFormed
      (Transport.transition_step _ input) written
  obtain ⟨leaf, rfl⟩ := secures.exists_leaf
  rw [Transport.run_concat]
  exact ⟨maker, first, leaf, isFirst, secures, isMade⟩

/-- What a server presents whose certificate names one host. -/
def presentationOf (hostname : String) : Trust.Presentation where
  leaf := Certificate.Content.encode
    { domains := [hostname], addresses := [], subjectName := none
      notBefore := 2020, notAfter := 2030 }
  intermediates := []
  ocspResponse := []
  now := 2025

/-- The request of the run below. -/
def rootRequest : Http.Request := { method := "GET", uri := .origin ⟨"/", none⟩ }

/-- A send makes a connection, has it secured and gets its answer. Then another send takes the
connection. -/
def takenAgain (hostname : String) (address : SocketAddress) : List Input :=
  [.send 0 address rootRequest, .connected 0, .presented 0 (presentationOf hostname), .opened 0,
    .head 0 { status := 200 }, .body 0 [], .send 1 address rootRequest]

/-- The second send writes its request to the connection that the first one made. -/
theorem requests_reach_verified_servers_takenAgain :
    ∃ built events name address maker first leaf,
      transport { hostname := "api.example" } (.ofFiles []) (fun _ _ _ => .ok ()) =
        (.ok built, events) ∧
      .write 1 0 address rootRequest ∈
        ((built.run (takenAgain "api.example" ⟨.v4 ⟨10, 0, 0, 1⟩, 443⟩)).1.step (.ready 1)).2 ∧
      (writes 0 (built.run
        (takenAgain "api.example" ⟨.v4 ⟨10, 0, 0, 1⟩, 443⟩ ++ [.ready 1])).2).head? =
          some (maker, first) ∧
      (built.run (takenAgain "api.example" ⟨.v4 ⟨10, 0, 0, 1⟩, 443⟩ ++ [.ready 1])).1.making? 0 =
        some (address, some ⟨name, leaf⟩) := by
  have reached : ∃ built ∈ (transport { hostname := "api.example" } (.ofFiles [])
      fun _ _ _ => .ok ()).1.toOption, (1, rootRequest) ∈ writes 0 ((built.run
        (takenAgain "api.example" ⟨.v4 ⟨10, 0, 0, 1⟩, 443⟩)).1.step (.ready 1)).2 := by
    decide +kernel
  obtain ⟨built, isBuilt, written⟩ := reached
  obtain ⟨events, hasTransport⟩ := exists_events isBuilt
  obtain ⟨address, written⟩ := Connection.mem_writes.mp written
  obtain ⟨_, name, _, _, _, _, verified⟩ := requests_reach_verified_servers rfl hasTransport
  obtain ⟨maker, first, leaf, isFirst, _, isMade⟩ := verified _ _ _ _ _ _ written
  exact ⟨built, events, name, address, maker, first, leaf, hasTransport, written, isFirst, isMade⟩

end OneHost.Session
