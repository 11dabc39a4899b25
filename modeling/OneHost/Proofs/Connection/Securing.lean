import OneHost.Proofs.Connection.Records

/-!
# How connections are secured

Over an encrypted channel a send that has a bare connection tells the server the name, lets the
verifier judge what the server presents, and only then opens the connection and writes its request.
No other way leads to a connection, so that whoever writes to a connection later, having found it
idle, writes to one that was secured in this way when it was made.
-/

namespace OneHost.Connection

variable {start transport after : Transport} {sending : Sending} {input : Input}
variable {inputs : List Input} {effects more : List Effect}

namespace Transport

/-! ## Single steps -/

theorem Acquires.channel_eq (acquires : transport.Acquires sending after more) :
    after.channel = transport.channel := by
  cases acquires <;> rfl

theorem Transition.channel_eq (transition : Transition transport input after more) :
    after.channel = transport.channel := by
  cases transition with
  | sent _ _ acquires | again _ _ acquires => exact acquires.channel_eq
  | missed _ | refused _ _ | wrote _ _ | proceeded _ _ | failed _ _ | opened _ _ | headed _ _ _
    | answered _ _ _ | unclaimed _ _ | brokeOff _ _ | broke _ | closed _ | cancelled _ | evicted _
    | elapsed _ => rfl

/-- A send that has no connection after a step was under way before it, begins to dial, or has come
to its next stage. -/
theorem Transition.bare_send (transition : Transition transport input after more)
    (among : sending ∈ after.sends) (bare : sending.stage.checkout? = none) :
    sending ∈ transport.sends ∨ sending.stage = .dialling ∨
      ∃ origin ∈ transport.sends, ∃ stage, transport.Proceeds origin input stage more ∧
        sending = { origin with stage } := by
  have remains {id : Nat} {other : Sending} (among : other ∈ (transport.withoutSend id).sends) :
      other ∈ transport.sends := List.mem_of_mem_filter among
  have acquired {origin : Sending} (acquires : transport.Acquires origin after more) :
      sending ∈ transport.sends ∨ sending.stage = .dialling := by
    cases acquires with
    | reuses _ _ =>
      cases among with
      | head => contradiction
      | tail _ among => exact .inl (remains among)
    | dials _ _ =>
      cases among with
      | head => exact .inr rfl
      | tail _ among => exact .inl (remains among)
  cases transition with
  | missed _ | refused _ _ | unclaimed _ _ | broke _ | closed _ | evicted _ | elapsed _ =>
    exact .inl among
  | failed _ _ | answered _ _ _ | brokeOff _ _ | cancelled _ => exact .inl (remains among)
  | sent _ _ acquires | again _ _ acquires => exact (acquired acquires).imp_right .inl
  | wrote _ _ | opened _ _ | headed _ _ _ =>
    cases among with
    | head => contradiction
    | tail _ among => exact .inl (remains among)
  | proceeded amongBefore proceeds =>
    cases among with
    | head => exact .inr (.inr ⟨_, amongBefore, _, proceeds, rfl⟩)
    | tail _ among => exact .inl (remains among)

/-- Requests are written to connections that go where the requests are meant to go. -/
theorem Transition.goesTo?_of_write (transition : Transition transport input after more)
    (wellFormed : transport.WellFormed) {id connection : Nat} {address : SocketAddress}
    {request : Http.Request} (written : .write id connection address request ∈ more) :
    after.goesTo? connection = some address := by
  obtain ⟨sending, among, checkout, waiting, _, rfl, rfl, _⟩ := transition.waits_of_write written
  have holds : sending.stage.checkout? = some checkout := congrArg Stage.checkout? waiting
  exact ((wellFormed.step transition).held sending among checkout holds).goesTo

/-! ## Proofs of identity -/

/-- In the course of some inputs a send got a connection to an address secured: the server was told
the name, and what it then presented was accepted. -/
def Secures (start : Transport) (verifier : Trust.Verifier) (name : ServerName)
    (inputs : List Input) (id : Nat) (address : SocketAddress) (secured : Option Secured) : Prop :=
  ∃ before presentation later, inputs = before ++ .presented id presentation :: later ∧
    .secure id address name ∈ (start.run before).2 ∧
    (verifier.verify name presentation).1 = .ok () ∧
    secured = some ⟨name, presentation.leaf⟩

variable {hostname : String} {name : ServerName} {client : Trust.Client}
variable {verifier : Trust.Verifier}

theorem Secures.mono {id : Nat} {address : SocketAddress} {secured : Option Secured}
    (secures : start.Secures verifier name inputs id address secured) (input : Input) :
    start.Secures verifier name (inputs ++ [input]) id address secured := by
  obtain ⟨before, presentation, later, rfl, told, accepted, isSecured⟩ := secures
  exact ⟨before, presentation, later ++ [input], by simp, told, accepted, isSecured⟩

theorem Secures.exists_leaf {id : Nat} {address : SocketAddress} {secured : Option Secured}
    (secures : start.Secures verifier name inputs id address secured) :
    ∃ leaf, secured = some ⟨name, leaf⟩ := by
  obtain ⟨_, presentation, _, _, _, _, isSecured⟩ := secures
  exact ⟨presentation.leaf, isSecured⟩

/-- Every connection of a transport is secured, and so will be those that are being made. -/
structure Secure (start : Transport) (hostname : String) (name : ServerName)
    (client : Trust.Client) (inputs : List Input) (effects : List Effect) (transport : Transport) :
    Prop where
  channel : transport.channel = .encrypted hostname name client
  told : ∀ sending ∈ transport.sends, sending.stage = .securing →
    .secure sending.id sending.address name ∈ effects
  opening : ∀ sending ∈ transport.sends, ∀ secured, sending.stage = .opening secured →
    start.Secures client.verifier name inputs sending.id sending.address secured
  makers : transport.Makers effects (start.Secures client.verifier name inputs)

namespace Secure

theorem of_make (isEncrypted : start.channel = .encrypted hostname name client)
    (noSends : start.sends = []) (noLines : start.lines = []) :
    Secure start hostname name client [] [] start where
  channel := isEncrypted
  told sending among := by simp [noSends] at among
  opening sending among := by simp [noSends] at among
  makers connection address secured made := by simp [making?, noLines] at made

theorem told_step (secure : Secure start hostname name client inputs effects transport)
    (transition : Transition transport input after more) :
    ∀ sending ∈ after.sends, sending.stage = .securing →
      .secure sending.id sending.address name ∈ effects ++ more := by
  intro sending among securing
  cases transition.bare_send among (by rw [securing]; rfl) with
  | inl before => exact List.mem_append_left _ (secure.told sending before securing)
  | inr now =>
    cases now with
    | inl dialling => rw [dialling] at securing; contradiction
    | inr proceeded =>
      obtain ⟨origin, _, stage, proceeds, rfl⟩ := proceeded
      cases proceeds with
      | plain _ _ | trusted _ _ _ => contradiction
      | encrypted _ isEncrypted =>
        obtain ⟨rfl, rfl, rfl⟩ := Channel.encrypted.inj (secure.channel.symm.trans isEncrypted)
        exact List.mem_append_right _ (.head _)

theorem opening_step (secure : Secure start hostname name client inputs effects transport)
    (reached : (start.run inputs).2 = effects)
    (transition : Transition transport input after more) :
    ∀ sending ∈ after.sends, ∀ secured, sending.stage = .opening secured →
      start.Secures client.verifier name (inputs ++ [input]) sending.id sending.address
        secured := by
  intro sending among secured opening
  cases transition.bare_send among (by rw [opening]; rfl) with
  | inl before => exact (secure.opening sending before secured opening).mono input
  | inr now =>
    cases now with
    | inl dialling => rw [dialling] at opening; contradiction
    | inr proceeded =>
      obtain ⟨origin, amongBefore, stage, proceeds, rfl⟩ := proceeded
      cases proceeds with
      | encrypted _ _ => contradiction
      | plain _ isPlain => rw [secure.channel] at isPlain; contradiction
      | @trusted _ _ _ presentation _ securing isEncrypted verified =>
        obtain ⟨rfl, rfl, rfl⟩ := Channel.encrypted.inj (secure.channel.symm.trans isEncrypted)
        have told := secure.told origin amongBefore securing
        rw [← reached] at told
        exact ⟨inputs, presentation, [], rfl, told, by rw [verified],
          (Stage.opening.inj opening).symm⟩

/-- No connection comes to be, in a step, that was not secured before it. -/
theorem makers_after (secure : Secure start hostname name client inputs effects transport)
    (recorded : Recorded inputs effects transport)
    (transition : Transition transport input after more) :
    after.Makers (effects ++ more) (start.Secures client.verifier name inputs) :=
  secure.makers.step transition recorded.writes_length secure.opening

theorem step (secure : Secure start hostname name client inputs effects transport)
    (recorded : Recorded inputs effects transport) (reached : (start.run inputs).2 = effects)
    (transition : Transition transport input after more) :
    Secure start hostname name client (inputs ++ [input]) (effects ++ more) after where
  channel := transition.channel_eq.trans secure.channel
  told := secure.told_step transition
  opening := secure.opening_step reached transition
  makers := (secure.makers_after recorded transition).imp fun _ _ _ secures => secures.mono input

theorem of_run (hostname : String) (name : ServerName) (client : Trust.Client)
    (connectTimeout : Duration) (limits : Limits) (inputs : List Input) :
    Secure (make (.encrypted hostname name client) connectTimeout limits) hostname name client
      inputs ((make (.encrypted hostname name client) connectTimeout limits).run inputs).2
      ((make (.encrypted hostname name client) connectTimeout limits).run inputs).1 :=
  run_induction (.of_make rfl rfl rfl) (fun secure stepped =>
    secure.step (.of_run ..) rfl (.of_step stepped)) inputs

end Secure

/-- Requests are written to secured connections only, and every request to a connection that was
secured for the address that the request is meant for. -/
theorem secures_of_write {id connection : Nat} {address : SocketAddress} {request : Http.Request}
    (secure : Secure start hostname name client inputs effects transport)
    (recorded : Recorded inputs effects transport) (wellFormed : transport.WellFormed)
    (transition : Transition transport input after more)
    (written : .write id connection address request ∈ more) :
    ∃ maker first secured, (writes connection (effects ++ more)).head? = some (maker, first) ∧
      after.making? connection = some (address, secured) ∧
      start.Secures client.verifier name inputs maker address secured := by
  have goesTo := transition.goesTo?_of_write wellFormed written
  rw [goesTo?_eq] at goesTo
  obtain ⟨⟨_, secured⟩, made, rfl⟩ := Option.map_eq_some_iff.mp goesTo
  obtain ⟨maker, first, isFirst, secures⟩ :=
    secure.makers_after recorded transition connection _ secured made
  exact ⟨maker, first, secured, isFirst, made, secures⟩

end Transport

end OneHost.Connection
