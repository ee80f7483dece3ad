import VpcMachines.Proofs.Machine.UserData
import VpcMachines.Proofs.Rest.Body
import VpcMachines.Proofs.Rest.Tolerance

/-!
# The text of an instance on its way to the cloud

Of all requests that creating a machine sends, only the last posts anything: the request for an instance.
Its body has the text that the store keeps, character by character, and lacks the field if the text is
empty (`bootstrap_text_reaches_cloud`).
-/

namespace VpcMachines.Rest

open Program Text

variable {c : Connection} {pages : Nat}

/-! ## What is sent to carry out a call -/

theorem callsOnly_exchange {test : Request → Prop} {method : Method} {path : String}
    {filters : List (String × Option String)} {body : Option Json}
    (h : test (c.request method path filters body)) :
    (exchange c method path filters body).CallsOnly test := by
  unfold exchange
  split
  · exact callsOnly_fail _
  · have hrequest : (request (I := Http) (c.request method path filters body)).CallsOnly test :=
      callsOnly_request h
    exact (hrequest.mapFault _).bind fun _ ↦ callsOnly_ofExcept _

/-- What is replied is read without further requests. -/
theorem callsOnly_read {α β : Type} {test : Request → Prop} {p : Program Http α}
    {f : α → Program Http β} (hp : p.CallsOnly test)
    (hf : ∀ a, ∃ answer, f a = ofExcept answer) : (p >>= f).CallsOnly test := by
  refine hp.bind fun a ↦ ?_
  obtain ⟨answer, hanswer⟩ := hf a
  rw [hanswer]
  exact callsOnly_ofExcept answer

/-- Programs that send `GET` requests only. -/
abbrev Gets {α : Type} (p : Program Http α) : Prop :=
  p.CallsOnly fun request : Request ↦ request.method = .get

theorem gets_namedPage (name : String) (start : Option String) : Gets (namedPage c name start) :=
  callsOnly_read (callsOnly_exchange rfl) fun _ ↦ ⟨_, rfl⟩

theorem gets_findNamed (listing name : String) :
    Gets (findNamed (namedPage c listing) name pages) :=
  Walk.callsOnly_find (gets_namedPage listing) _ _ _

/-- A call that changes nothing is carried out by `GET` requests. -/
theorem gets_serve {call : CloudCall} (hcall : call.isMutating = false) :
    Gets (serve c pages call) := by
  cases call with
  | listInstances name start => exact callsOnly_read (callsOnly_exchange rfl) fun _ ↦ ⟨_, rfl⟩
  | getInstance id => exact callsOnly_read (callsOnly_exchange rfl) fun _ ↦ ⟨_, map_ofExcept _ _⟩
  | listImages start => exact gets_namedPage "images" start
  | listKeys start => exact gets_namedPage "keys" start
  | getSubnetByName name => exact gets_findNamed "subnets" name
  | getSecurityGroupByName name => exact gets_findNamed "security_groups" name
  | getSecurityGroup id =>
    exact callsOnly_read (callsOnly_exchange rfl) fun _ ↦ ⟨_, map_ofExcept _ _⟩
  | getLoadBalancer id =>
    exact callsOnly_read (callsOnly_exchange rfl) fun _ ↦ ⟨_, map_ofExcept _ _⟩
  | listPoolMembers loadBalancer pool =>
    exact callsOnly_read (callsOnly_exchange rfl) fun _ ↦ ⟨_, map_ofExcept _ _⟩
  | createInstance | deleteInstance | createPoolMember | deletePoolMember => cases hcall

/-- An instance is requested by a `POST` request with its body, and by nothing else. -/
theorem posts_serve (p : Prototype) :
    (serve c pages (.createInstance p)).CallsOnly
      (· = c.request .post "/instances" [] (some (instanceBody p))) := by
  refine callsOnly_read (callsOnly_exchange rfl) fun v ↦ ?_
  simp only [map_ofExcept, bind_ofExcept]
  exact ⟨_, rfl⟩

/-! ## The request for an instance -/

/-- A request submits an instance that starts with a text. An empty text is left out. -/
def Submits (c : Connection) (text : String) (request : Request) : Prop :=
  request.url = c.endpoint ++ "/instances" ∧ ∃ fields, request.body = some (.object fields) ∧
    fields.lookup "user_data" = if text = "" then none else some (.text text)

/-- Of what may be unset, the text to start with is in the body unless it is empty. -/
theorem submits_instanceBody {p : Prototype} {text : String} (h : p.userData = some text) :
    Submits c text (c.request .post "/instances" [] (some (instanceBody p))) := by
  obtain ⟨fields, hbody, hshows⟩ := showsPrototype_instanceBody p
  have huser : (filled p.userData).map .text = if text = "" then none else some (Json.text text) := by
    rw [h]
    by_cases htext : text = "" <;> simp [filled, htext]
  exact ⟨rfl, fields, congrArg some hbody, hshows.userData.trans huser⟩

variable {spec : MachineSpec} {network : Option NetworkStatus} {store : SecretStore}
  {name dataKey text : String}

/-- What a program asks the store is asked as it stands, so the store tells the program as much. -/
theorem told_of_served {u : List (Event (Cloud.sum Local))} {t : List (Event (Http.sum Local))}
    (h : Served (serveBeside c pages) u t) (htold : ∀ e ∈ t, store.Tells dataKey e) :
    ∀ e ∈ u, store.Tells dataKey e := by
  rintro ⟨call | call, answer⟩ he
  · trivial
  · have hasked : store.Tells dataKey (⟨.inr call, answer⟩ : Event (Http.sum Local)) :=
      htold _ (mem_of_served_local h he)
    cases call with
    | secret space name => exact hasked
    | dataKey => exact hasked
    | account => trivial

/-- Whatever is posted to create a machine submits the text that the store keeps. -/
theorem submits_of_post {t : List (Event (Http.sum Local))} {o : Outcome (Option Instance)}
    {request : Request} {answer : Except Fault Reply}
    (hname : filled spec.bootstrapSecret = some name)
    (hkept : store.Keeps spec.secretNamespace name dataKey text)
    (h : (overHttpBeside c pages (Machine.create pages spec network)).Runs t o)
    (htold : ∀ e ∈ t, store.Tells dataKey e)
    (he : (⟨.inl request, answer⟩ : Event (Http.sum Local)) ∈ t) (hpost : request.method = .post) :
    Submits c text request := by
  cases (interpretRun_of_runs h).within he with
  | @intro before behind call reply _ front inner ending run earlier hfront hcall hmem =>
  cases call with
  | inr call =>
    obtain ⟨given, rfl, _⟩ := runs_serveBeside_local hcall
    cases List.mem_singleton.mp hmem
  | inl call =>
    obtain ⟨u, rfl, hserve⟩ := runs_beside_iff.mp hcall
    obtain ⟨⟨sent, replied⟩, hsent, heq⟩ := List.mem_map.mp hmem
    cases heq
    cases hchange : call.isMutating with
    | false =>
      have hget : sent.method = .get := (gets_serve hchange).of_mem_run hserve _ hsent
      rw [hget] at hpost
      cases hpost
    | true =>
      have hbefore := told_of_served earlier fun e he ↦ htold e (hfront he)
      obtain ⟨p, hp, huser⟩ := Machine.userData_of_change hname hkept run hbefore hchange
      cases hp
      have hposted : sent = _ := (posts_serve p).of_mem_run hserve _ hsent
      rw [hposted]
      exact submits_instanceBody huser

/-- A text that a store keeps reaches the cloud as it is. Reading it cannot fail; a request for an instance
carries it, and so does the body that is posted for this request, unless the text is empty. Of a file that
holds values in base64, every value is delivered byte by byte. -/
theorem bootstrap_text_reaches_cloud (c : Connection) (pages : Nat) (spec : MachineSpec)
    (network : Option NetworkStatus) (store : SecretStore) (name dataKey text : String)
    (hname : filled spec.bootstrapSecret = some name)
    (hkept : store.Keeps spec.secretNamespace name dataKey text) :
    (∀ t o, (Machine.bootstrapData spec).Runs t o → (∀ e ∈ t, store.Tells dataKey e) →
      o = .returned text) ∧
    (∀ t o, (Machine.create pages spec network).Runs t o → (∀ e ∈ t, store.Tells dataKey e) →
      ∀ request answer, ⟨.inl (.createInstance request), answer⟩ ∈ t →
        request.userData = some text) ∧
    (∀ t o, (overHttpBeside c pages (Machine.create pages spec network)).Runs t o →
      (∀ e ∈ t, store.Tells dataKey e) →
      ∀ request answer, ⟨.inl request, answer⟩ ∈ t → request.method = .post →
        Submits c text request) ∧
    ∀ (files : Files) (home : Path) (space name : String) (content : List Char)
      (document : Yaml.Document) (values : List (String × List UInt8)),
      files.readText (Secret.pathIn home space name) = .ok content →
      Yaml.read content = .ok document → Secret.Holds document values →
      SecretStore.get (.files files home) space name = .ok (Secret.ofBytes values) := by
  refine ⟨?_, ?_, ?_, ?_⟩
  · intro t o h htold
    exact Machine.bootstrapData_returns hname hkept h htold
  · intro t o h htold request answer he
    obtain ⟨before, behind, rfl⟩ := List.append_of_mem he
    have hbefore := (List.forall_mem_append.mp htold).1
    obtain ⟨same, hsame, huser⟩ := Machine.userData_of_change hname hkept h hbefore rfl
    cases hsame
    exact huser
  · intro t o h htold request answer he hpost
    exact submits_of_post hname hkept h htold he hpost
  · intro files home space name content document values hfile hread hholds
    exact Secret.inFiles_eq hfile hread hholds

/-- Four characters, of one to four bytes. -/
def signs : String := "$£€𐍈"

/-- A file with the bytes of these characters, in base64. -/
def signsLayout : List Char := Secret.layout (Base64.encode (Utf8.encode signs))

def signsFiles : Files := Secret.oneSecret (Utf8.encode (String.ofList signsLayout))

theorem readText_signsFiles :
    signsFiles.readText (Secret.pathIn .root "default" "bootstrap") = .ok signsLayout := by
  rw [Files.readText, signsFiles, Secret.status_oneSecret]
  exact Secret.decode_layout Secret.isWordChar_encode

theorem read_signsLayout :
    Yaml.read signsLayout =
      .ok (Secret.layoutDocument (.text (String.ofList (Base64.encode (Utf8.encode signs))))) := by
  have htag : Yaml.resolve (String.ofList (Base64.encode (Utf8.encode signs))) = .text := by
    decide +kernel
  rw [signsLayout, Secret.read_layout Secret.isWordChar_encode (by rw [htag]; rfl), htag]
  rfl

/-- A store that gives one secret, whatever it is asked for. -/
def holding (secret : Secret) : Handler Local (List Reply) where
  answer
    | .secret _ _, script => (.ok secret, script)
    | .dataKey, script => (.ok "value", script)
    | .account, script => (.ok none, script)

/-- Four characters are posted as they are. -/
theorem signs_posted :
    let c : Connection := ⟨.default, "token", "https://cloud", 30⟩
    let spec : MachineSpec :=
      { name := "machine", profile := "small", image := some ⟨some "image", none⟩, sshKeys := [],
        network := ⟨⟨some "subnet", none⟩, []⟩, zone := none, secretNamespace := "default",
        bootstrapSecret := some "bootstrap" }
    let store : SecretStore := .files signsFiles .root
    filled spec.bootstrapSecret = some "bootstrap" ∧
    store.Keeps spec.secretNamespace "bootstrap" "value" signs ∧
    ∃ t o, (overHttpBeside c 2 (Machine.create 2 spec none)).Runs t o ∧
      (∀ e ∈ t, store.Tells "value" e) ∧
      ∃ request answer, ⟨.inl request, answer⟩ ∈ t ∧ request.method = .post ∧
        Submits c signs request := by
  intro c spec store
  let secret : Secret := Secret.ofBytes [("value", Utf8.encode signs)]
  let create := overHttpBeside c 2 (Machine.create 2 spec none)
  let all := scripted.sum (holding secret)
  let script : List Reply := [⟨200, "\x7b\x7d"⟩, ⟨503, "busy"⟩]
  have hkept : store.Keeps "default" "bootstrap" "value" signs :=
    .files readText_signsFiles read_signsLayout (Secret.holds_layout _) List.lookup_cons_self
      (Utf8.encodeWhole_kept signs)
  obtain ⟨-, -, hposted, hdelivered⟩ := bootstrap_text_reaches_cloud c 2 spec none store "bootstrap"
    "value" signs rfl hkept
  have hget : store.get "default" "bootstrap" = .ok secret :=
    hdelivered _ _ _ _ _ _ _ readText_signsFiles read_signsLayout (Secret.holds_layout _)
  obtain ⟨listing, page, request, answer, htrace, hpost⟩ : ∃ listing page request answer,
      create.trace all script =
        [⟨.inl listing, page⟩, ⟨.inr (.secret "default" "bootstrap"), .ok secret⟩,
          ⟨.inr .dataKey, .ok "value"⟩, ⟨.inl request, answer⟩] ∧ request.method = .post :=
    ⟨_, _, _, _, rfl, rfl⟩
  have htold : ∀ e ∈ create.trace all script, store.Tells "value" e := by
    rw [htrace]
    simp only [List.forall_mem_cons]
    exact ⟨trivial, hget.symm, rfl, trivial, List.forall_mem_nil _⟩
  have hmem : ⟨.inl request, answer⟩ ∈ create.trace all script := by
    rw [htrace]
    simp
  exact ⟨rfl, hkept, _, _, runs_trace all create script, htold, request, answer, hmem, hpost,
    hposted _ _ (runs_trace all create script) htold request answer hmem hpost⟩

end VpcMachines.Rest
