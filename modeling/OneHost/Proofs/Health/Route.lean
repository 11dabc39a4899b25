import OneHost.Health.Prober
import OneHost.Proofs.Http.Aiming

/-!
# Probes take the way of requests

A probe's request, the requests of an application and the URI that a report shows are put together
in three places. `probe_takes_route` says that they agree: the request of a probe is what aiming a
plain request for the health path at the address gives, and its URI is the one that is shown. Where
there is no such request, nothing is sent.
-/

namespace OneHost

namespace Http.Target

variable {target : Target} {ip : Ip} {path : String} {request : Request}

/-- What the request of a probe consists of. -/
theorem healthCheck_eq_ok (isMade : target.healthCheck ip path = .ok request) :
    ∃ resource, Resource.parse (rooted path).toList = .ok resource ∧
      (target.uriText ip path).utf8ByteSize ≤ Uri.maxLength ∧
      headerValue target.hostHeader = .ok (Text.encode target.hostHeader) ∧
      target.uriFor ip path = .ok request.uri ∧
      request = {
        method := "GET"
        uri := .absolute target.protocol.scheme (target.socketAddress ip).text resource
        headers := Headers.empty.insert "host" (Text.encode target.hostHeader) } := by
  unfold healthCheck at isMade
  cases hasUri : target.uriFor ip path with
  | error error =>
    rw [hasUri] at isMade
    contradiction
  | ok uri =>
    obtain ⟨short, resource, isRead, rfl⟩ := uriFor_eq_ok_iff.mp hasUri
    rw [hasUri] at isMade
    cases hasHost : headerValue target.hostHeader with
    | error error =>
      rw [hasHost] at isMade
      contradiction
    | ok host =>
      obtain rfl := eq_encode_of_headerValue hasHost
      rw [hasHost] at isMade
      cases isMade
      exact ⟨resource, isRead, short, rfl, rfl, rfl⟩

/-- A plain request, of which nothing but the method and the path is given, can be built wherever a
probe of the path can. -/
theorem build_plain {resource : Resource}
    (isRead : Resource.parse (rooted path).toList = .ok resource)
    (short : (target.uriText ip path).utf8ByteSize ≤ Uri.maxLength) :
    Request.build "GET" (rooted path) [] [] = .ok { method := "GET", uri := .origin resource } := by
  obtain ⟨rest, begins⟩ := exists_rooted path
  have isUri : requestUri (rooted path) = .ok (.origin resource) := by
    apply requestUri_eq_ok_iff.mpr
    rw [Uri.parse_of_slash begins (Nat.le_trans (size_rooted_le target ip path) short), isRead]
    rfl
  have isMethod : checkMethod "GET" = .ok "GET" := by decide
  rw [Request.build, isMethod, isUri]
  rfl

/-- A resource that was read from a path is written as a path that leads to it again. Only a fragment
may have been lost, so the new URI is no longer than the old one. -/
theorem uriFor_text {resource : Resource}
    (isRead : Resource.parse (rooted path).toList = .ok resource)
    (short : (target.uriText ip path).utf8ByteSize ≤ Uri.maxLength) :
    target.uriFor ip resource.text =
      .ok (.absolute target.protocol.scheme (target.socketAddress ip).text resource) := by
  obtain ⟨rest, begins⟩ := exists_rooted path
  have isRooted : resource.IsRooted := Resource.isRooted_of_parse (begins ▸ isRead)
  have writable := (Resource.parse_eq_ok_iff.mp isRead).2
  have asWritten := rooted_text isRooted
  have noLonger : resource.text.utf8ByteSize ≤ (rooted path).utf8ByteSize := by
    rw [isRooted.text_eq]
    exact Resource.size_le_of_parse isRead
  apply uriFor_eq_ok_iff.mpr
  refine ⟨?_, resource, ?_, rfl⟩
  · refine Nat.le_trans ?_ short
    simp only [uriText, String.utf8ByteSize_append, asWritten]
    omega
  · rw [asWritten, isRooted.toList_text]
    exact Resource.parse_written writable

/-- The request of a probe is a plain request for the path that has been aimed at the address. -/
theorem exists_plain (isMade : target.healthCheck ip path = .ok request) :
    ∃ plain, Request.build "GET" (rooted path) [] [] = .ok plain ∧
      target.retarget ip plain = .ok request := by
  obtain ⟨resource, isRead, short, hasHost, _, rfl⟩ := healthCheck_eq_ok isMade
  refine ⟨_, build_plain isRead short, ?_⟩
  have ownText : (Uri.origin resource).resourceText = resource.text := rfl
  rw [retarget, ownText, uriFor_text isRead short, hasHost]
  rfl

/-- All requests that are aimed at an address name the same authority and the same host. -/
theorem retarget_shares {other first second : Request}
    (isFirst : target.retarget ip request = .ok first)
    (isSecond : target.retarget ip other = .ok second) :
    first.uri.authority? = second.uri.authority? ∧
      first.headers.toList.filter (·.1 = "host") = second.headers.toList.filter (·.1 = "host") := by
  obtain ⟨_, _, _, _, rfl⟩ := retarget_eq_ok isFirst
  obtain ⟨_, _, _, _, rfl⟩ := retarget_eq_ok isSecond
  refine ⟨rfl, ?_⟩
  calc (request.headers.insert "host" (Text.encode target.hostHeader)).toList.filter (·.1 = "host")
      = [("host", Text.encode target.hostHeader)] := Headers.own_insert _ "host" _
    _ = (other.headers.insert "host" (Text.encode target.hostHeader)).toList.filter
          (·.1 = "host") := (Headers.own_insert _ "host" _).symm

end Http.Target

namespace Health.Prober

variable {σ : Type} {prober : Prober} {ip : Ip}

/-- Exchanges as a probe makes them: how long each takes and what comes of it, given how long it is
waited for. -/
abbrev Exchange (σ : Type) :=
  Duration → SocketAddress → Http.Request → σ →
    (Duration × Except TransportError Http.Response) × σ

/-- The same exchanges, where each request is noted down with the address that it goes to. -/
def Exchange.noted (exchange : Exchange σ) :
    Exchange (σ × List (SocketAddress × Http.Request)) :=
  fun limit address request state =>
    let (answer, next) := exchange limit address request state.1
    (answer, next, state.2 ++ [(address, request)])

/-- The requests that a probe sends, with the addresses that they go to. -/
def sent (prober : Prober) (exchange : Exchange σ) (ip : Ip) (state : σ) :
    List (SocketAddress × Http.Request) :=
  (prober.probe exchange.noted ip (state, [])).2.2

/-- A request that can be made is handed over once, however the exchange ends. -/
theorem probe_snd_of_request {request : Http.Request} (isMade : prober.request ip = .ok request)
    (exchange : Exchange σ) (state : σ) :
    (prober.probe exchange ip state).2 =
      (exchange prober.readTimeout (prober.target.socketAddress ip) request state).2 := by
  simp only [probe, isMade]
  rw [apply_ite Prod.snd, ite_self]

theorem sent_of_request {request : Http.Request} (isMade : prober.request ip = .ok request)
    (exchange : Exchange σ) (state : σ) :
    prober.sent exchange ip state = [(prober.target.socketAddress ip, request)] := by
  rw [sent, probe_snd_of_request isMade]
  rfl

theorem probe_of_no_request {error : Http.RequestError} (fails : prober.request ip = .error error)
    (exchange : Exchange σ) (state : σ) :
    prober.probe exchange ip state = ((⟨0⟩, .failed (.request error)), state) := by
  simp only [probe, fails]

theorem healthUri_of_request {request : Http.Request} (isMade : prober.request ip = .ok request) :
    prober.healthUri ip = request.uri.text := by
  obtain ⟨_, _, _, _, hasUri, _⟩ := Http.Target.healthCheck_eq_ok isMade
  simp only [healthUri, hasUri]

/-- If a probe of an address has a request, that is the plain request for the health path, with a
slash in front, once it is aimed at the address: so it names the same authority and the same host as
every request that is aimed there. It is the one request that the probe sends, and the URI that is
shown is its own. If there is no such request, nothing is sent, nothing is waited for, and the
endpoint is held to be down. -/
theorem probe_takes_route (prober : Prober) (ip : Ip) :
    (∀ request, prober.request ip = .ok request →
      (∃ plain, Http.Request.build "GET" (Http.Target.rooted prober.healthPath) [] [] = .ok plain ∧
        prober.target.retarget ip plain = .ok request) ∧
      prober.healthUri ip = request.uri.text ∧
      (∀ other aimed, prober.target.retarget ip other = .ok aimed →
        request.uri.authority? = aimed.uri.authority? ∧
          request.headers.toList.filter (·.1 = "host") =
            aimed.headers.toList.filter (·.1 = "host")) ∧
      ∀ (σ : Type) (exchange : Exchange σ) (state : σ),
        prober.sent exchange ip state = [(prober.target.socketAddress ip, request)]) ∧
    ∀ error, prober.request ip = .error error →
      ∀ (σ : Type) (exchange : Exchange σ) (state : σ),
        prober.sent exchange ip state = [] ∧
          prober.probe exchange ip state = ((⟨0⟩, .failed (.request error)), state) ∧
          (prober.probe exchange ip state).1.2.isHealthy = false := by
  constructor
  · intro request isMade
    obtain ⟨plain, isBuilt, isAimed⟩ := Http.Target.exists_plain isMade
    refine ⟨⟨plain, isBuilt, isAimed⟩, healthUri_of_request isMade, ?_, ?_⟩
    · intro other aimed isOther
      exact Http.Target.retarget_shares isAimed isOther
    · intro σ exchange state
      exact sent_of_request isMade exchange state
  · intro error fails σ exchange state
    have silent := probe_of_no_request fails exchange.noted (state, [])
    have fails := probe_of_no_request fails exchange state
    refine ⟨?_, fails, ?_⟩
    · rw [sent, silent]
    · rw [fails]
      rfl

/-- A host at a port of its own. -/
def atOwnPort (healthPath : String) : Prober :=
  ⟨⟨.https, "api.example", 8443⟩, healthPath, .ofMilliseconds 1000⟩

/-- An address of version 6. -/
def localhost : Ip := .v6 ⟨#v[0, 0, 0, 0, 0, 0, 0, 1]⟩

/-- A path without a slash, but with a query and a fragment, is probed in the way of requests; a path
with a blank is not probed at all. -/
theorem probe_takes_route_queried :
    (∃ plain request, Http.Request.build "GET" "/health?full#now" [] [] = .ok plain ∧
      (atOwnPort "health?full#now").target.retarget localhost plain = .ok request ∧
      (atOwnPort "health?full#now").request localhost = .ok request ∧
      (atOwnPort "health?full#now").healthUri localhost = request.uri.text ∧
      request.uri.text = "https://[::1]:8443/health?full") ∧
    ∀ exchange : Exchange Unit, (atOwnPort "health check").sent exchange localhost () = [] := by
  constructor
  · obtain ⟨made, _⟩ := probe_takes_route (atOwnPort "health?full#now") localhost
    have isUri : ((atOwnPort "health?full#now").request localhost).map (·.uri.text) =
        .ok "https://[::1]:8443/health?full" := by
      decide +kernel
    cases isMade : (atOwnPort "health?full#now").request localhost with
    | error error =>
      rw [isMade] at isUri
      contradiction
    | ok request =>
      rw [isMade] at isUri
      obtain ⟨⟨plain, isBuilt, isAimed⟩, isShown, _⟩ := made request isMade
      have rooted : Http.Target.rooted (atOwnPort "health?full#now").healthPath =
          "/health?full#now" := by
        decide +kernel
      rw [rooted] at isBuilt
      exact ⟨plain, request, isBuilt, isAimed, rfl, isShown, Except.ok.inj isUri⟩
  · intro exchange
    have fails : (atOwnPort "health check").request localhost =
        .error (.invalidUri .invalidCharacter) := by
      decide +kernel
    exact ((probe_takes_route (atOwnPort "health check") localhost).2 _ fails Unit exchange ()).1

end Health.Prober

end OneHost
