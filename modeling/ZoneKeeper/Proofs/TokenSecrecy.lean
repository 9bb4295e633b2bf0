/-
**The token goes into the authorization header and nowhere else.**

What a run shows depends on the token in two ways only: whether it is blank, which is refused at
once, and whether it may stand in a header, without which nothing is sent.  Two runs whose tokens
agree in these two points cannot be told apart by results, failures, inspected values, log entries,
exit codes and requests, but for the authorization header of the requests.

The token of an environment is the text of its variable without the blanks around it.

Main definitions:

* `ZoneKeeper.TokensAlike` — two tokens agree in the two points;
* `ZoneKeeper.Settings.SameButToken`, `ZoneKeeper.Cloudflare.Step.SameButToken`,
  `ZoneKeeper.Command.Options.SameButToken` — the same but for tokens that are alike;
* `ZoneKeeper.Command.EnvironmentsAlike` — two environments that differ in the token;
* `ZoneKeeper.Http.Request.withoutAuthorization` — a request but for the header.

Main results:

* `ZoneKeeper.Cloudflare.tokenLikeness` — clients with tokens alike send requests that are the same
  but for the header;
* `ZoneKeeper.Command.read_alike` — environments alike give options alike or fail alike;
* `ZoneKeeper.token_stays_in_authorization` — **sessions and commands do not show the token**.
-/

import ZoneKeeper.Command.Run
import ZoneKeeper.Proofs.Cloudflare.Likeness
import ZoneKeeper.Proofs.Text.Blank

set_option autoImplicit false

namespace ZoneKeeper

open ZoneKeeper.Http ZoneKeeper.Text

/-- Both tokens are blank or neither is, and both may stand in a header or neither may. -/
structure TokensAlike (token token' : String) : Prop where
  blank : allBlank token = allBlank token'
  legal : token.toList.all standsInHeader = token'.toList.all standsInHeader

theorem TokensAlike.refl (token : String) : TokensAlike token token := ⟨rfl, rfl⟩

/-- The settings are the same but for tokens that are alike. -/
structure Settings.SameButToken (s s' : Settings) : Prop where
  token : TokensAlike s.token s'.token
  zone : s.zone = s'.zone
  dryRun : s.dryRun = s'.dryRun
  apiBase : s.apiBase = s'.apiBase

namespace Settings.SameButToken

theorem refl (s : Settings) : s.SameButToken s := ⟨.refl s.token, rfl, rfl, rfl⟩

variable {s s' : Settings} (h : s.SameButToken s')

include h

theorem fault? : s.fault? = s'.fault? := by
  rw [Settings.fault?, Settings.fault?, h.token.blank, h.zone, h.apiBase]

theorem inspect : s.inspect = s'.inspect := by
  rw [Settings.inspect, Settings.inspect, h.zone, h.dryRun, h.apiBase]

end Settings.SameButToken

/-! ### Requests and links -/

namespace Http

/-- The request without its authorization header. -/
def Request.withoutAuthorization (r : Request) : Request :=
  { r with authorization := "" }

/-- The same has happened on the links, but for the authorization headers. -/
structure Link.SameButAuthorization (l l' : Link) : Prop where
  host : l.host = l'.host
  queue : l.queue = l'.queue
  log : l.log = l'.log
  requests : l.requests.map Request.withoutAuthorization =
    l'.requests.map Request.withoutAuthorization

namespace Link.SameButAuthorization

variable {l l' : Link} (h : l.SameButAuthorization l')

include h

theorem reaches (url : Url) : l.reaches url = l'.reaches url := by
  rw [Link.reaches, Link.reaches, h.host]

theorem next? : l.next? = l'.next? := by
  rw [Link.next?, Link.next?, h.queue]

theorem taken {r r' : Request} (hr : r.withoutAuthorization = r'.withoutAuthorization) :
    (l.taken r).SameButAuthorization (l'.taken r') where
  host := h.host
  queue := congrArg (List.drop 1) h.queue
  log := h.log
  requests := by
    rw [Link.taken_requests, Link.taken_requests, List.map_append, List.map_append, h.requests]
    simp [hr]

end Link.SameButAuthorization

theorem Link.write_alike (entry : Entry) :
    Coupled Link.SameButAuthorization Eq (Link.write entry) (Link.write entry) := fun _ _ h =>
  ⟨rfl, h.host, h.queue, congrArg (· ++ [entry]) h.log, h.requests⟩

/-- Requests that are the same but for the header have the same fate. -/
theorem Link.exchange_alike (url : Url) {r r' : Request}
    (hr : r.withoutAuthorization = r'.withoutAuthorization) :
    Coupled Link.SameButAuthorization Eq (Link.exchange url r) (Link.exchange url r') := by
  intro l l' h
  by_cases hreach : l.reaches url = true
  · rw [Link.exchange_of_reaches hreach, Link.exchange_of_reaches (h.reaches url ▸ hreach)]
    exact ⟨h.next?, h.taken hr⟩
  · rw [Link.exchange_of_not_reaches hreach, Link.exchange_of_not_reaches (h.reaches url ▸ hreach)]
    exact ⟨rfl, h⟩

end Http

/-! ### Clients and sessions -/

namespace Cloudflare

/-- The clients are the same but for tokens that both may stand in a header, or neither. -/
structure Client.SameButToken (c c' : Client) : Prop where
  legal : c.token.toList.all standsInHeader = c'.token.toList.all standsInHeader
  base : c.base = c'.base
  dryRun : c.dryRun = c'.dryRun

/-- The request for a draft is the same but for the header, and it cannot be made for the same
reason. -/
theorem Client.SameButToken.prepare {c c' : Client} (h : c.SameButToken c') (d : Draft) :
    ResultsAlike (fun p p' => p.1 = p'.1 ∧ p.2.withoutAuthorization = p'.2.withoutAuthorization)
      (c.prepare d) (c'.prepare d) := by
  rw [Client.prepare, Client.prepare, h.base]
  cases Url.parse? (c'.base ++ d.path).toList with
  | none => exact .error _
  | some bare =>
      dsimp only
      -- the token decides nothing but whether the header can be made
      rw [h.legal]
      split
      · exact .error _
      · split
        · exact .error _
        · split
          · exact .error _
          · exact .ok ⟨rfl, rfl⟩

/-- Clients with tokens alike, and links on which the same has happened but for the authorization
headers. -/
def tokenLikeness : Likeness where
  Clients := Client.SameButToken
  Links := Link.SameButAuthorization
  fresh _ _ := ⟨rfl, rfl, rfl, rfl⟩
  write := Link.write_alike
  inspect h := by rw [Client.inspect, Client.inspect, h.base, h.dryRun]
  dryRun h := h.dryRun
  transmit {c c' d} h _ := by
    intro l l' hl
    have hprepare := h.prepare d
    rw [Client.transmit, Client.transmit]
    generalize c.prepare d = made at hprepare ⊢
    generalize c'.prepare d = made' at hprepare ⊢
    cases hprepare with
    | error fault => exact ⟨rfl, hl⟩
    | @ok p p' hp =>
        obtain ⟨url, request⟩ := p
        obtain ⟨url', request'⟩ := p'
        obtain ⟨rfl, hrequest⟩ := hp
        -- only the address tells whether a link is reached
        obtain ⟨hreply, hlinks⟩ := Link.exchange_alike url hrequest l l' hl
        exact ⟨congrArg (Client.arrived url) hreply, hlinks⟩

theorem create?_alike {token token' : String} (h : TokensAlike token token') (base : String)
    (dryRun : Bool) :
    ResultsAlike tokenLikeness.Clients (Client.create? token base dryRun)
      (Client.create? token' base dryRun) := by
  rw [Client.create?, Client.create?, h.blank]
  split
  · exact .error _
  · exact .ok ⟨h.legal, rfl, rfl⟩

theorem ofSettings_alike {s s' : Settings} (h : s.SameButToken s') :
    ResultsAlike tokenLikeness.Clients (Client.ofSettings s) (Client.ofSettings s') := by
  rw [Client.ofSettings, Client.ofSettings, h.fault?, h.apiBase, h.dryRun]
  cases s'.fault? with
  | some fault => exact .error _
  | none => exact create?_alike h.token _ _

/-- The steps are the same but for tokens that are alike. -/
inductive Step.SameButToken : Step → Step → Prop
  | client {token token' : String} (base : String) (dryRun : Bool) : TokensAlike token token' →
      SameButToken (.client token base dryRun) (.client token' base dryRun)
  | clientOfSettings {s s' : Settings} : s.SameButToken s' →
      SameButToken (.clientOfSettings s) (.clientOfSettings s')
  | connect {s s' : Settings} : s.SameButToken s' → SameButToken (.connect s) (.connect s')
  | same (x : Step) : SameButToken x x

theorem Step.SameButToken.alike {x x' : Step} (h : x.SameButToken x') :
    tokenLikeness.Steps x x' := by
  cases h with
  | client base dryRun h => exact .client (create?_alike h base dryRun)
  | clientOfSettings h => exact .clientOfSettings (ofSettings_alike h)
  | connect h => exact .connect h.zone (ofSettings_alike h)
  | same =>
      cases x with
      | client token base dryRun => exact .client (create?_alike (.refl token) base dryRun)
      | clientOfSettings s => exact .clientOfSettings (ofSettings_alike (.refl s))
      | connect s => exact .connect rfl (ofSettings_alike (.refl s))
      | bind zone => exact .bind zone
      | call call => exact .call call
      | providerName => exact .providerName
      | update name address ttl => exact .update name address ttl

/-- The report without the authorization headers. -/
def Report.withoutAuthorization (r : Report) : Report :=
  { r with requests := r.requests.map Request.withoutAuthorization }

/-- Sessions that differ in the token report the same but for the headers. -/
theorem reports_eq {steps steps' : List (Step × List Canned)}
    (h : List.Forall₂ (fun p p' => p.1.SameButToken p'.1 ∧ p.2 = p'.2) steps steps')
    (host : Option WebOrigin) :
    (Session.run host {} steps).1.map Report.withoutAuthorization =
      (Session.run host {} steps').1.map Report.withoutAuthorization := by
  have hreports := Likeness.run (h.imp fun _ _ hp => ⟨hp.1.alike, hp.2⟩)
    tokenLikeness.sessions_start host
  generalize (Session.run host {} steps).1 = reports at hreports ⊢
  generalize (Session.run host {} steps').1 = reports' at hreports ⊢
  induction hreports with
  | nil => rfl
  | @cons r r' _ _ hr _ ih =>
      obtain ⟨hresult, l, l', hlinks, hrequests, hlog, hrequests', hlog'⟩ := hr
      rw [List.map_cons, List.map_cons, ih, Report.withoutAuthorization,
        Report.withoutAuthorization, hresult, hrequests, hlog, hrequests', hlog', hlinks.log,
        hlinks.requests]

end Cloudflare

/-! ### The command -/

namespace Command

open ZoneKeeper.Cloudflare

/-- The options are the same but for tokens that are alike. -/
structure Options.SameButToken (o o' : Options) : Prop where
  settings : o.settings.SameButToken o'.settings
  record : o.record = o'.record
  address : o.address = o'.address
  ttl : o.ttl = o'.ttl
  level : o.level = o'.level

/-- The environments differ in the token at most, and there the tokens are alike. -/
structure EnvironmentsAlike (env env' : Environment) : Prop where
  token : Option.Rel (fun raw raw' => TokensAlike (trim raw) (trim raw')) (env .apiToken)
    (env' .apiToken)
  rest : ∀ v, v ≠ .apiToken → env v = env' v

section

variable {env env' : Environment} (h : EnvironmentsAlike env env')

include h

theorem required_token :
    ResultsAlike TokensAlike (required env .apiToken) (required env' .apiToken) := by
  rw [required, required]
  have htoken := h.token
  generalize env .apiToken = given at htoken ⊢
  generalize env' .apiToken = given' at htoken ⊢
  cases htoken with
  | none => exact .error _
  | @some raw raw' htrim =>
      have hblank := htrim.blank
      rw [allBlank_trim, allBlank_trim] at hblank
      dsimp only
      rw [hblank]
      split
      · exact .error _
      · exact .ok htrim

/-- **Environments alike give options alike, or fail alike.** -/
theorem read_alike : ResultsAlike Options.SameButToken (Options.read env) (Options.read env') := by
  have hrequired : ∀ v, v ≠ .apiToken → required env v = required env' v := fun v hv => by
    rw [required, required, h.rest v hv]
  rw [Options.read, Options.read, readAddress, readAddress, readTtl, readTtl, readBase, readBase,
    hrequired .ip nofun, hrequired .zone nofun, hrequired .record nofun, h.rest .ttl nofun,
    h.rest .mode nofun, h.rest .logLevel nofun, h.rest .apiBase nofun]
  refine .bind_same _ fun address => .bind_same _ fun ttl => .bind_same _ fun dryRun =>
    .bind_same _ fun level => (required_token h).bind fun token token' htoken =>
    .bind_same _ fun zone => ?_
  have hsettings : (Settings.mk token zone dryRun
      (((env' .apiBase).filter fun raw => !allBlank raw).map trim)).SameButToken
      ⟨token', zone, dryRun, ((env' .apiBase).filter fun raw => !allBlank raw).map trim⟩ :=
    ⟨htoken, rfl, rfl, rfl⟩
  dsimp only
  rw [hsettings.fault?]
  split
  · exact .error _
  · exact .bind_same _ fun record => .ok ⟨hsettings, rfl, rfl, rfl, rfl⟩

end

/-- Options that are the same but for the token bring the command to the same end. -/
theorem run_alike {o o' : Options} (h : o.SameButToken o') {log : LogSink (StateM Link)}
    (hlog : ∀ entry, Coupled Link.SameButAuthorization Eq (log entry) (log entry)) :
    Coupled Link.SameButAuthorization Eq (run Link.exchange log o) (run Link.exchange log o') := by
  have hconnect := Likeness.connect h.settings.zone (ofSettings_alike h.settings) hlog
  refine hconnect.bind fun answer answer' hanswer => ?_
  cases hanswer with
  | error e => exact (hlog _).bind_eq fun _ => .pure rfl
  | ok hr =>
      dsimp only
      rw [updateRecord, updateRecord, h.record, h.address, h.ttl]
      refine (hr.update _ _ _).bind_eq fun result => ?_
      cases result with
      | error e => exact (hlog _).bind_eq fun _ => .pure rfl
      | ok outcome => exact (hlog _).bind_eq fun _ => .pure rfl

theorem execute_alike {env env' : Environment} (h : EnvironmentsAlike env env') :
    Coupled Link.SameButAuthorization Eq (execute Link.exchange Link.write env)
      (execute Link.exchange Link.write env') := by
  have hread := read_alike h
  rw [execute, execute]
  generalize Options.read env = read at hread ⊢
  generalize Options.read env' = read' at hread ⊢
  cases hread with
  | error fault => exact .pure rfl
  | ok ho =>
      dsimp only
      rw [ho.level]
      exact (run_alike ho (LogSink.coupled_atLevel Link.write_alike _)).bind_eq fun _ => .pure rfl

/-- What a run leaves behind, without the authorization headers. -/
def Trace.withoutAuthorization (t : Trace) : Trace :=
  { t with requests := t.requests.map Request.withoutAuthorization }

/-- Commands whose environments differ in the token leave the same behind but for the headers. -/
theorem playback_eq {env env' : Environment} (h : EnvironmentsAlike env env')
    (host : Option WebOrigin) (queue : List Canned) :
    (playback host queue env).withoutAuthorization =
      (playback host queue env').withoutAuthorization := by
  obtain ⟨hend, hlinks⟩ := execute_alike h { host, queue } { host, queue } ⟨rfl, rfl, rfl, rfl⟩
  rw [playback, playback]
  generalize execute Link.exchange Link.write env { host, queue } = ran at hend hlinks ⊢
  generalize execute Link.exchange Link.write env' { host, queue } = ran' at hend hlinks ⊢
  obtain ⟨⟨exitCode, fault⟩, link⟩ := ran
  obtain ⟨⟨exitCode', fault'⟩, link'⟩ := ran'
  obtain ⟨rfl, rfl⟩ := Prod.mk.inj hend
  dsimp only at hlinks ⊢
  rw [Trace.withoutAuthorization, Trace.withoutAuthorization, hlinks.log, hlinks.requests]

end Command

/-! ### The theorem -/

open Cloudflare Command

/-- **The token stays in the authorization header.**  Sessions whose steps differ in tokens that are
alike give the same results, failures, inspected values and log entries, and send the same requests
but for that header.  Environments that differ so give the same fault, or options that differ in the
token; the command comes to the same end, with the same complaints, log and requests.  Inspected
settings do not show the token. -/
theorem token_stays_in_authorization {steps steps' : List (Step × List Canned)}
    (hsteps : List.Forall₂ (fun p p' => p.1.SameButToken p'.1 ∧ p.2 = p'.2) steps steps')
    {env env' : Environment} (henv : EnvironmentsAlike env env') {settings settings' : Settings}
    (hsettings : settings.SameButToken settings') (host : Option WebOrigin)
    (queue : List Canned) :
    (Session.run host {} steps).1.map Report.withoutAuthorization =
        (Session.run host {} steps').1.map Report.withoutAuthorization ∧
      ResultsAlike Options.SameButToken (Options.read env) (Options.read env') ∧
      (playback host queue env).withoutAuthorization =
        (playback host queue env').withoutAuthorization ∧
      settings.inspect = settings'.inspect :=
  ⟨reports_eq hsteps host, read_alike henv, playback_eq henv host queue, hsettings.inspect⟩

/-- Two tokens, one of them with a blank before it in the environment. -/
theorem two_tokens_are_not_told_apart :
    let host : Option WebOrigin := some "127.0.0.1:8080".toList
    let steps := fun token : String => [(Step.client token "http://127.0.0.1:8080" false, []),
      (.call (.resolveZone "example.com"), [Canned.drop])]
    let env : String → Environment := fun token v =>
      match v with
      | .apiToken => some token
      | .ip => some "1.2.3.4"
      | .zone => some "example.com"
      | .record => some "www.example.com"
      | .apiBase => some "http://127.0.0.1:8080"
      | _ => none
    let sent := fun token =>
      (Session.run host {} (steps token)).1.flatMap fun r => r.requests.map Request.authorization
    sent "secret" = ["Bearer secret"] ∧ sent "other" = ["Bearer other"] ∧
      (Session.run host {} (steps "secret")).1.map Report.withoutAuthorization =
        (Session.run host {} (steps "other")).1.map Report.withoutAuthorization ∧
      (playback host [.drop] (env "secret")).withoutAuthorization =
        (playback host [.drop] (env " other")).withoutAuthorization ∧
      Settings.inspect ⟨"secret", "example.com", false, none⟩ =
        Settings.inspect ⟨"other", "example.com", false, none⟩ := by
  intro host steps env sent
  have htokens : TokensAlike "secret" "other" := ⟨by decide, by decide⟩
  have hsteps : List.Forall₂ (fun p p' => p.1.SameButToken p'.1 ∧ p.2 = p'.2) (steps "secret")
      (steps "other") :=
    .cons ⟨.client _ _ htokens, rfl⟩ (.cons ⟨.same _, rfl⟩ .nil)
  have henv : EnvironmentsAlike (env "secret") (env " other") := by
    refine ⟨.some ⟨by decide +kernel, by decide +kernel⟩, fun v hv => ?_⟩
    cases v with
    | apiToken => exact absurd rfl hv
    | _ => rfl
  have hsettings : Settings.SameButToken ⟨"secret", "example.com", false, none⟩
      ⟨"other", "example.com", false, none⟩ := ⟨htokens, rfl, rfl, rfl⟩
  obtain ⟨hreports, -, htraces, hinspect⟩ :=
    token_stays_in_authorization hsteps henv hsettings host [.drop]
  exact ⟨by decide +kernel, by decide +kernel, hreports, htraces, hinspect⟩

end ZoneKeeper
