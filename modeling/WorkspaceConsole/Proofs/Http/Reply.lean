import WorkspaceConsole.Http.Exchange
import WorkspaceConsole.Proofs.Json.Fields
import WorkspaceConsole.Proofs.Session.Bridged
import WorkspaceConsole.Proofs.Text.Utf8

/-!
# From an answer to the session

An answer is judged by its status and by what its text says (`Says`). The text may say nothing, an
error, or something without an error, and the status may be one of success or not: `Judged` gives
the result in each case. An error in the text counts whatever the status is, and output or a
directory beside it do not.

The result takes its way through the bridge, the evaluation of the line and the completion of the
command unchanged (`judges_reply`): the session moves where a good answer says, and a bad one leaves
a single line.
-/

namespace WorkspaceConsole.Http

open Json (HoldsText valuesOf)

/-! ## What a text says -/

/-- A value says what is in the body. It is an object that gives each of the three names at most
once, whatever else it has, or an array of up to three fields in order. -/
inductive Decodes : Json.Value → Body → Prop
  | object {members : List (Option String × Json.Value)} {body : Body} :
      (∀ member ∈ members, member.1 ≠ none) →
      (∀ name ∈ ["output", "error", "newDirectory"], (valuesOf members name).length ≤ 1) →
      HoldsText (valuesOf members "output").head? body.output →
      HoldsText (valuesOf members "error").head? body.error →
      HoldsText (valuesOf members "newDirectory").head? body.newDirectory →
      Decodes (.object members) body
  | array {items : List Json.Value} {body : Body} :
      items.length ≤ 3 → HoldsText items[0]? body.output → HoldsText items[1]? body.error →
      HoldsText items[2]? body.newDirectory → Decodes (.array items) body

/-- The text is JSON and says what is in the body. -/
def Says (text : String) (body : Body) : Prop :=
  ∃ value, Json.read? text.toList = some value ∧ Decodes value body

/-- The body that three fields hold. -/
def Body.ofFields? : List (Option Json.Value) → Option Body
  | [output, error, newDirectory] => do
    let read := Json.fieldOr none (Json.nullable Json.Value.text?)
    return ⟨← read output, ← read error, ← read newDirectory⟩
  | _ => none

theorem Body.ofText?_eq (text : String) :
    Body.ofText? text =
      (Json.read? text.toList).bind fun value =>
        (value.fields? ["output", "error", "newDirectory"]).bind Body.ofFields? := by
  rfl

theorem Body.ofFields?_eq_some_iff {output error newDirectory : Option Json.Value} {body : Body} :
    Body.ofFields? [output, error, newDirectory] = some body ↔
      HoldsText output body.output ∧ HoldsText error body.error ∧
        HoldsText newDirectory body.newDirectory := by
  simp only [← Json.fieldOr_nullable_text?_eq_some_iff]
  obtain ⟨o, e, d⟩ := body
  simp [Body.ofFields?, Option.bind_eq_some_iff]

theorem Body.fields?_array_eq_some_iff {items : List Json.Value} {body : Body} :
    ((Json.Value.array items).fields? ["output", "error", "newDirectory"]).bind Body.ofFields? =
        some body ↔
      items.length ≤ 3 ∧ HoldsText items[0]? body.output ∧ HoldsText items[1]? body.error ∧
        HoldsText items[2]? body.newDirectory := by
  match items with
  | [] => simp [Json.Value.fields?, Body.ofFields?_eq_some_iff]
  | [_] => simp [Json.Value.fields?, Body.ofFields?_eq_some_iff]
  | [_, _] => simp [Json.Value.fields?, Body.ofFields?_eq_some_iff]
  | [_, _, _] => simp [Json.Value.fields?, Body.ofFields?_eq_some_iff]
  | a :: b :: c :: d :: rest =>
    have hlong : ¬ (a :: b :: c :: d :: rest).length ≤ 3 := by
      simp only [List.length_cons]
      omega
    rw [Json.Value.fields?, if_neg (by exact hlong)]
    exact ⟨nofun, fun h => absurd h.1 hlong⟩

theorem decodes_iff {value : Json.Value} {body : Body} :
    (value.fields? ["output", "error", "newDirectory"]).bind Body.ofFields? = some body ↔
      Decodes value body := by
  have hnames : ["output", "error", "newDirectory"].Nodup := by decide
  constructor
  · intro h
    obtain ⟨slots, hslots, hbody⟩ := Option.bind_eq_some_iff.1 h
    cases value with
    | object members =>
      obtain ⟨hkeys, honce, rfl⟩ := (Json.fields?_object_eq_some_iff hnames).1 hslots
      obtain ⟨houtput, herror, hdirectory⟩ := Body.ofFields?_eq_some_iff.1 hbody
      exact .object hkeys honce houtput herror hdirectory
    | array items =>
      obtain ⟨hshort, houtput, herror, hdirectory⟩ := Body.fields?_array_eq_some_iff.1 h
      exact .array hshort houtput herror hdirectory
    | _ => cases hslots
  · intro h
    cases h with
    | object hkeys honce houtput herror hdirectory =>
      rw [(Json.fields?_object_eq_some_iff hnames).2 ⟨hkeys, honce, rfl⟩]
      exact Body.ofFields?_eq_some_iff.2 ⟨houtput, herror, hdirectory⟩
    | array hshort houtput herror hdirectory =>
      exact Body.fields?_array_eq_some_iff.2 ⟨hshort, houtput, herror, hdirectory⟩

/-- **The reader of bodies** takes what a text says, and refuses a text that says nothing. -/
theorem Body.ofText?_eq_some_iff {text : String} {body : Body} :
    Body.ofText? text = some body ↔ Says text body := by
  rw [Body.ofText?_eq, Option.bind_eq_some_iff]
  simp only [decodes_iff, Says]

/-! ## The result -/

/-- The result that an answer with this status and this text has to have. `refusal` is what the
reader of JSON has to say of a text that says nothing. -/
structure Judged (refusal : String → String) (status : Nat) (text : String)
    (result : Except BridgeError Output) : Prop where
  /-- It is good exactly if the status is one of success and the text says something without an
  error. It then consists of what the text says. -/
  ok_iff : ∀ output, result = .ok output ↔
    isSuccess status = true ∧ ∃ body, Says text body ∧ body.error = none ∧
      output = ⟨body.output.getD "", body.newDirectory⟩
  /-- An error that the text says counts, whatever the status. -/
  reported : ∀ body error, Says text body → body.error = some error →
    result = .error (.remote error)
  /-- Without an error in the text, a status that is not one of success is the error. -/
  failed : isSuccess status = false → (∀ body, Says text body → body.error = none) →
    result = .error (.remote ("request failed with status " ++ statusText status))
  /-- With a status of success, a text that says nothing has been lost on its way. -/
  unread : isSuccess status = true → (∀ body, ¬ Says text body) →
    result = .error (.transport ("invalid response body: " ++ refusal text))

variable {refusal : String → String} {status : Nat} {text error : String} {body : Body}

theorem resultOf_of_error (hsaid : Says text body) (herror : body.error = some error) :
    resultOf refusal status text = .error (.remote error) := by
  obtain ⟨output, _, newDirectory⟩ := body
  subst herror
  rw [resultOf, Body.ofText?_eq_some_iff.2 hsaid]
  cases isSuccess status <;> rfl

theorem resultOf_of_failed (hstatus : isSuccess status = false)
    (hsaid : ∀ body, Says text body → body.error = none) :
    resultOf refusal status text =
      .error (.remote ("request failed with status " ++ statusText status)) := by
  rw [resultOf, hstatus]
  cases hread : Body.ofText? text with
  | none => rfl
  | some body =>
    obtain ⟨output, error, newDirectory⟩ := body
    have hnone : error = none := hsaid _ (Body.ofText?_eq_some_iff.1 hread)
    rw [hnone]

theorem resultOf_of_unread (hstatus : isSuccess status = true)
    (hsaid : ∀ body, ¬ Says text body) :
    resultOf refusal status text =
      .error (.transport ("invalid response body: " ++ refusal text)) := by
  have hread : Body.ofText? text = none := by
    rw [Option.eq_none_iff_forall_ne_some]
    intro body hbody
    exact hsaid body (Body.ofText?_eq_some_iff.1 hbody)
  rw [resultOf, hstatus, hread]

theorem resultOf_of_good (hstatus : isSuccess status = true) (hsaid : Says text body)
    (herror : body.error = none) :
    resultOf refusal status text = .ok ⟨body.output.getD "", body.newDirectory⟩ := by
  obtain ⟨output, _, newDirectory⟩ := body
  subst herror
  rw [resultOf, hstatus, Body.ofText?_eq_some_iff.2 hsaid]

/-- A result is good for one reason only. -/
theorem says_of_resultOf_eq_ok {output : Output} (hok : resultOf refusal status text = .ok output) :
    isSuccess status = true ∧ ∃ body, Says text body ∧ body.error = none ∧
      output = ⟨body.output.getD "", body.newDirectory⟩ := by
  by_cases hreported : ∃ body error, Says text body ∧ body.error = some error
  · obtain ⟨body, error, hsaid, herror⟩ := hreported
    rw [resultOf_of_error hsaid herror] at hok
    cases hok
  · have hnone : ∀ body, Says text body → body.error = none := by
      intro body hsaid
      rw [Option.eq_none_iff_forall_ne_some]
      intro error herror
      exact hreported ⟨body, error, hsaid, herror⟩
    cases hstatus : isSuccess status with
    | false =>
      rw [resultOf_of_failed hstatus hnone] at hok
      cases hok
    | true =>
      by_cases hsaid : ∃ body, Says text body
      · obtain ⟨body, hsaid⟩ := hsaid
        have herror := hnone body hsaid
        rw [resultOf_of_good hstatus hsaid herror] at hok
        exact ⟨rfl, body, hsaid, herror, (Except.ok.inj hok).symm⟩
      · rw [resultOf_of_unread hstatus (not_exists.1 hsaid)] at hok
        cases hok

theorem judged_resultOf (refusal : String → String) (status : Nat) (text : String) :
    Judged refusal status text (resultOf refusal status text) where
  ok_iff output := by
    constructor
    · exact says_of_resultOf_eq_ok
    · rintro ⟨hstatus, body, hsaid, herror, rfl⟩
      exact resultOf_of_good hstatus hsaid herror
  reported body error hsaid herror := resultOf_of_error hsaid herror
  failed hstatus hsaid := resultOf_of_failed hstatus hsaid
  unread hstatus hsaid := resultOf_of_unread hstatus hsaid

/-! ## The way to the session -/

/-- The answer to a request comes back from the network within the time limit, and it ends the
exchange. Times are not told apart beyond the longest one. -/
structure Arrives {σ : Type} (network : Network σ) (endpoint : String) (limitMs : UInt64)
    (request : Request) (state : σ) (answer : Answer) : Prop where
  posted : ∃ u delayMs state', Url.parse? (executeUrl endpoint) = some u ∧
    u.withoutCredentials.isHttp = true ∧
    network.post u.withoutCredentials (requestBody request) state =
      (.ok answer, delayMs, state') ∧
    ∀ delay ∈ delayMs, min delay longestWaitMs ≤ limitMs.toNat
  final : isFinal answer.status = true

/-- **Every text arrives** with a status that has a body. -/
theorem Answer.text_encode (h : isBodiless status = false) (text : String) :
    (⟨status, Text.Utf8.encode text⟩ : Answer).text = text := by
  simp [Answer.text, h, Text.Utf8.decodeLossy_encode]

variable {σ : Type} {network : Network σ} {endpoint : String} {limitMs : UInt64}
  {request : Request} {state : σ} {answer : Answer}

/-- The bridge judges an answer that arrives, and its caller sees the same. -/
theorem Arrives.execute (h : Arrives network endpoint limitMs request state answer) :
    ((bridge network endpoint).execute request state).1.result =
        resultOf network.refusal answer.status answer.text ∧
      ((bridge network endpoint).execute request state).1.within limitMs =
        resultOf network.refusal answer.status answer.text := by
  obtain ⟨⟨u, delayMs, state', hparse, hhttp, hpost, hintime⟩, hfinal⟩ := h
  have hresult : answer.result network.refusal =
      resultOf network.refusal answer.status answer.text := if_pos hfinal
  have hexecute : ((bridge network endpoint).execute request state).1 =
      ⟨resultOf network.refusal answer.status answer.text, delayMs⟩ := by
    simp [bridge, hparse, unusable, hhttp, hpost, Except.bind, hresult]
  rw [hexecute]
  refine ⟨rfl, ?_⟩
  rw [Reply.within]
  cases delayMs with
  | none => rfl
  | some delay =>
    have hdelay := hintime delay rfl
    exact if_pos hdelay

/-- **What becomes of an answer.** Every status and every text are judged, and the bridge gives the
result of those that arrive. The session that waits for the line then moves where a good result
says, if that names a directory. A bad one moves it nowhere: it leaves one line, and no effect. -/
theorem judges_reply (network : Network σ) (endpoint : String) (limitMs : UInt64) :
    (∀ status text,
        Judged network.refusal status text (resultOf network.refusal status text)) ∧
      ∀ (x : Submission) (request : Request) (t : Session) (backend : Backend σ) (answer : Answer),
        Request.ofLine? x.line x.cwd = some request → t.inFlight = some x.ticket →
        Arrives network endpoint limitMs request backend.bridge answer →
        ∃ result state, result = resultOf network.refusal answer.status answer.text ∧
          ((bridge network endpoint).execute request backend.bridge).1.result = result ∧
            (Interpreter.bridged (bridge network endpoint) limitMs).evaluate x.line x.cwd backend =
                (.ofResult result, ⟨backend.store, state⟩) ∧
              t.Delivers x.ticket (.ofResult result) result := by
  refine ⟨judged_resultOf network.refusal, ?_⟩
  intro x request t backend answer hrequest hwaits harrives
  obtain ⟨hresult, hwithin⟩ := harrives.execute
  refine ⟨_, ((bridge network endpoint).execute request backend.bridge).2, rfl, hresult, ?_, ?_⟩
  · rw [evaluate_of_request _ _ hrequest, hwithin]
  · exact Session.delivers_ofResult hwaits _

/-- An error counts with a status of success too, and neither output nor a directory beside it
does. -/
theorem judges_reply_error :
    let answer : Answer := ⟨200, Text.Utf8.encode
      "\x7b\"newDirectory\": \"etc\", \"error\": \"boom\", \"output\": \"done\", \"at\": null\x7d"⟩
    let network : Network Unit :=
      ⟨fun _ _ s => (.ok answer, some 5, s), fun _ => "expected value"⟩
    let t : Session := { id := 0, cwd := ⟨["src"]⟩, inFlight := some 1 }
    ∃ e after,
      (Interpreter.bridged (bridge network "http://[::1]:5000/") 20).evaluate "make all" t.cwd
          ⟨.empty, ()⟩ = (e, after) ∧
        e.effects = [] ∧ (t.complete 1 e).2.transcript = ["Error: boom"] ∧
          (t.complete 1 e).2.cwd = t.cwd := by
  intro answer network t
  have htext : answer.text = "\x7b\"newDirectory\": \"etc\", \"error\": \"boom\", " ++
      "\"output\": \"done\", \"at\": null\x7d" :=
    Answer.text_encode (by decide) _
  have hsaid : Says answer.text ⟨some "done", some "boom", some "etc"⟩ := by
    rw [htext, ← Body.ofText?_eq_some_iff]
    decide +kernel
  have harrives : Arrives network "http://[::1]:5000/" 20 ⟨"make all", "src"⟩ () answer := by
    refine ⟨⟨{ scheme := "http", host := some "[::1]", port := some 5000, path := "/execute" },
      some 5, (), ?_, ?_, rfl, ?_⟩, ?_⟩
    · decide +kernel
    · decide +kernel
    · rintro _ ⟨⟩
      decide
    · decide
  have hrequest : Request.ofLine? "make all" t.cwd = some ⟨"make all", "src"⟩ := by
    decide +kernel
  obtain ⟨hjudged, hreply⟩ := judges_reply network "http://[::1]:5000/" 20
  obtain ⟨result, state, hresult, -, hevaluate, hdelivers⟩ :=
    hreply ⟨1, "make all", t.cwd⟩ _ t ⟨.empty, ()⟩ answer hrequest rfl harrives
  rw [(hjudged _ _).reported _ "boom" hsaid rfl] at hresult
  subst hresult
  obtain ⟨-, heffects, -, htranscript, hcwd⟩ := hdelivers
  exact ⟨_, _, hevaluate, heffects, htranscript, hcwd⟩

end WorkspaceConsole.Http
