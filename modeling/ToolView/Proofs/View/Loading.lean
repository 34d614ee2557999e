import Mathlib
import ToolView.Proofs.View.Address
import ToolView.Proofs.View.Needs

/-! What a host loads of the contents of a view. It makes no difference how the text travels. A list
of addresses comes down to the web address in one of its lines, and every other text is taken as it
is; needs that cannot be read count for nothing in the policy. -/

namespace ToolView

theorem Url.write_eq_scheme (u : Url) : ∃ rest, u.write = u.scheme ++ (":" ++ rest) := by
  simp only [write,String.append_assoc]
  exact ⟨_,rfl⟩

namespace RenderPlan

/-- A line is neither blank nor a comment, once the blanks at its ends are off. -/
def Names (line : List Char) : Prop :=
  Text.trim line ≠ [] ∧ (Text.trim line).head? ≠ some '#'

/-- The line that is taken from a list: the first one that names something, without the blanks at
its ends. -/
inductive Taken : List Char → List Char → Prop
  | skip {line rest chosen} (flat : '\n' ∉ line) (passed : ¬ Names line)
      (later : Taken rest chosen) : Taken (line ++ '\n' :: rest) chosen
  | take {line below} (flat : '\n' ∉ line) (ends : below = [] ∨ ∃ rest, below = '\n' :: rest)
      (named : Names line) : Taken (line ++ below) (Text.trim line)

section lines
variable {line : List Char}

private theorem plain_of_flat (flat : '\n' ∉ line) : ∀ c ∈ line, (c == '\n') = false := by
  intro c member
  rw [beq_eq_false_iff_ne]
  rintro rfl
  exact flat member

theorem names_trim : names (Text.trim line) = true ↔ Names line := by
  simp [names,Names]

theorem firstLine?_flat (flat : '\n' ∉ line) : firstLine? line =
    if names (Text.trim line) then some (Text.trim line) else none := by
  rw [firstLine?,Text.splitBy_of_not_mem (plain_of_flat flat),List.map_singleton,
    List.find?_singleton]

theorem firstLine?_ended (flat : '\n' ∉ line) (rest : List Char) :
    firstLine? (line ++ '\n' :: rest) =
      if names (Text.trim line) then some (Text.trim line) else firstLine? rest := by
  rw [firstLine?,Text.splitBy_append_cons (plain_of_flat flat) rfl,List.map_cons,List.find?_cons]
  cases names (Text.trim line) <;> rfl

end lines

theorem firstLine?_of_taken {cs line : List Char} (taken : Taken cs line) :
    firstLine? cs = some line := by
  induction taken with
  | skip flat passed later ih =>
    rw [firstLine?_ended flat,if_neg (names_trim.not.mpr passed),ih]
  | take flat ends named =>
    obtain rfl | ⟨rest,rfl⟩ := ends
    · rw [List.append_nil,firstLine?_flat flat,if_pos (names_trim.mpr named)]
    · rw [firstLine?_ended flat,if_pos (names_trim.mpr named)]

theorem taken_of_firstLine {cs line : List Char} (first : firstLine? cs = some line) :
    Taken cs line := by
  -- What stands below a line is a shorter list, whatever the line is.
  induction size : cs.length using Nat.strong_induction_on generalizing cs with
  | _ n ih =>
    by_cases broken : '\n' ∈ cs
    · obtain ⟨front,rest,rfl,flat⟩ := List.eq_append_cons_of_mem broken
      rw [firstLine?_ended flat] at first
      split_ifs at first with named
      · cases first
        exact .take flat (.inr ⟨rest,rfl⟩) (names_trim.mp named)
      · refine .skip flat (names_trim.not.mp named) (ih rest.length ?_ first rfl)
        rw [← size,List.length_append,List.length_cons]
        omega
    · rw [firstLine?_flat broken] at first
      split_ifs at first with named
      cases first
      have whole : Taken (cs ++ []) (Text.trim cs) := .take broken (.inl rfl) (names_trim.mp named)
      rwa [List.append_nil] at whole

theorem firstUri?_eq_some {cs : List Char} {line : String} :
    firstUri? cs = some line ↔ Taken cs line.toList := by
  rw [firstUri?_eq,Option.map_eq_some_iff]
  constructor
  · rintro ⟨chosen,first,rfl⟩
    rw [String.toList_ofList]
    exact taken_of_firstLine first
  · intro taken
    exact ⟨line.toList,firstLine?_of_taken taken,String.ofList_toList⟩

/-- What a view of a kind renders of a text: the web address in the line that is taken from a list
of addresses, in its normal form, and any other text as it is. -/
inductive Renders : ViewKind → String → String → Prop
  | whole {kind text} (other : kind ≠ .uriList) : Renders kind text text
  | address {text line u} (taken : Taken text.toList line) (parsed : Url.parseChars line = .ok u)
      (web : u.scheme = "http" ∨ u.scheme = "https") : Renders .uriList text u.write

theorem address_eq_ok {list content : String} :
    address list = .ok content ↔ Renders .uriList list content := by
  constructor
  · intro loads
    rw [address] at loads
    cases first : firstUri? list.toList with
    | none => rw [first] at loads; cases loads
    | some line =>
      rw [first] at loads
      dsimp only at loads
      cases parsed : Url.parse line with
      | error cause => rw [parsed] at loads; cases loads
      | ok u =>
        rw [parsed] at loads
        dsimp only at loads
        split_ifs at loads with web
        cases loads
        exact .address (firstUri?_eq_some.mp first) parsed web
  · rintro (other | @⟨_,line,u,taken,parsed,web⟩)
    · exact absurd rfl other
    · have first : firstUri? list.toList = some (String.ofList line) :=
        firstUri?_eq_some.mpr (by rwa [String.toList_ofList])
      have reads : Url.parse (String.ofList line) = .ok u := by
        rw [Url.parse,String.toList_ofList,parsed]
      rw [address,first]
      dsimp only
      rw [reads]
      exact if_pos web

theorem contentFor_eq_ok {kind : ViewKind} {text content : String} :
    contentFor kind text = .ok content ↔ Renders kind text content := by
  have whole (other : kind ≠ .uriList) :
      (.ok text : Except ViewError String) = .ok content ↔ Renders kind text content := by
    constructor
    · rintro ⟨⟩
      exact .whole other
    · intro renders
      cases renders with
      | whole _ => rfl
      | address _ _ _ => exact absurd rfl other
  cases kind with
  | uriList =>
    rw [← address_eq_ok,contentFor]
    cases address text <;> simp [Except.mapError]
  | html | app | remoteDom _ => exact whole nofun

/-- Whatever is loaded as an address is one of the web. -/
theorem Renders.web {text content : String} (renders : Renders .uriList text content) :
    ∃ rest, content = "http:" ++ rest ∨ content = "https:" ++ rest := by
  obtain other | @⟨_,line,u,taken,parsed,web⟩ := renders
  · exact absurd rfl other
  · obtain ⟨rest,written⟩ := u.write_eq_scheme
    rw [written]
    refine ⟨rest,web.imp (fun scheme => ?_) fun scheme => ?_⟩
    · rw [scheme]
      rfl
    · rw [scheme]
      rfl

theorem ofContents_eq_ok_iff {c : Contents} {sandbox : SandboxConfig} {plan : RenderPlan} :
    ofContents c sandbox = .ok plan ↔
      ∃ kind text content, modeOf c = .ok kind ∧ c.decodedText = .ok text ∧
        Renders kind text content ∧
        plan = ⟨c.uri,kind,content,ViewNeeds.ofContents? c,ViewMetadata.ofMeta? c.meta?,
          .of sandbox (ViewNeeds.ofContents? c)⟩ := by
  constructor
  · intro planned
    obtain ⟨kind,text,content,parsed,read,drawn,made⟩ := ofContents_eq_ok planned
    exact ⟨kind,text,content,parsed,read,contentFor_eq_ok.mp drawn,made⟩
  · rintro ⟨kind,text,content,parsed,read,renders,rfl⟩
    rw [ofContents,parsed,read]
    change (contentFor kind text).bind _ = _
    rw [contentFor_eq_ok.mpr renders]
    rfl

/-- A plan follows from the text that the contents hold, and from no other way to hold it. -/
theorem ofContents_congr {c d : Contents} (uri : c.uri = d.uri) (mimeType : c.mimeType = d.mimeType)
    (meta? : c.meta? = d.meta?) (text : c.decodedText = d.decodedText) (sandbox : SandboxConfig) :
    ofContents c sandbox = ofContents d sandbox := by
  rw [ofContents,ofContents,modeOf,modeOf,ViewNeeds.ofContents?,ViewNeeds.ofContents?,uri,mimeType,
    meta?,text]

/-- The policy of a plan hangs on the needs of its view alone, however they are stated. -/
theorem sandbox_congr {c d : Contents} (mimeType : c.mimeType = d.mimeType) (body : c.body = d.body)
    (needs : ViewNeeds.ofContents? c = ViewNeeds.ofContents? d) (sandbox : SandboxConfig) :
    (ofContents c sandbox).map RenderPlan.sandbox =
      (ofContents d sandbox).map RenderPlan.sandbox := by
  have kind : modeOf c = modeOf d := by rw [modeOf,modeOf,mimeType]
  have text : c.decodedText = d.decodedText := by
    rw [Contents.decodedText,Contents.decodedText,body]
  rw [ofContents,ofContents,kind,text,needs]
  cases modeOf d with
  | error e => rfl
  | ok kind =>
    cases d.decodedText with
    | error e => rfl
    | ok text =>
      change ((contentFor kind text).bind _).map _ = ((contentFor kind text).bind _).map _
      cases contentFor kind text <;> rfl

theorem needs_of_unstated {c : Contents} (silent : c.statedNeeds? = none) :
    ViewNeeds.ofContents? c = none := by
  change c.statedNeeds?.bind _ = none
  rw [silent]
  rfl

theorem needs_of_misstated {c : Contents} {value : Json} {e : DecodeError}
    (stated : c.statedNeeds? = some value) (unread : ViewNeeds.decode value = .error e) :
    ViewNeeds.ofContents? c = none := by
  change c.statedNeeds?.bind _ = none
  rw [stated,Option.bind_some,unread]
  rfl

/-- What a plan makes of contents: a text and its bytes in base64, with or without blanks around
them, come to the same plan or the same error; what is loaded is the text as it is, or the address
of the web in the line that is taken from it; and needs that cannot be read make the policy that no
needs make. -/
theorem contents_plan (c : Contents) (sandbox : SandboxConfig) :
    (∀ text before after, (∀ ch ∈ before, Text.isBlank ch) → (∀ ch ∈ after, Text.isBlank ch) →
      ofContents { c with
        body := .blob (String.ofList (before ++ (encodeBlob text).toList ++ after)) } sandbox =
      ofContents { c with body := .text text } sandbox) ∧
    (∀ plan, ofContents c sandbox = .ok plan → ∃ text, c.decodedText = .ok text ∧
      Renders plan.mode text plan.content ∧ (plan.mode = .uriList →
        ∃ rest, plan.content = "http:" ++ rest ∨ plan.content = "https:" ++ rest)) ∧
    (∀ value e, c.statedNeeds? = some value → ViewNeeds.decode value = .error e →
      ∀ d : Contents, d.mimeType = c.mimeType → d.body = c.body → d.statedNeeds? = none →
        (ofContents c sandbox).map RenderPlan.sandbox =
          (ofContents d sandbox).map RenderPlan.sandbox) := by
  refine ⟨?_,?_,?_⟩
  · intro text before after lead trail
    apply ofContents_congr
    · rfl
    · rfl
    · rfl
    · exact (Contents.decodedText_around lead trail rfl).trans rfl
  · intro plan planned
    obtain ⟨kind,text,content,-,read,renders,rfl⟩ := ofContents_eq_ok_iff.mp planned
    refine ⟨text,read,renders,fun list => ?_⟩
    cases list
    exact renders.web
  · intro value e stated unread d mimeType body silent
    refine sandbox_congr mimeType.symm body.symm ?_ sandbox
    rw [needs_of_misstated stated unread,needs_of_unstated silent]

namespace Sample

def links : String := "# links\r\n\n \u00a0https://example.com/a \r\nhttps://example.com/b"

def linked : Contents :=
  ⟨"ui://sample/view",some "text/uri-list",.text links,
    some (Dict.empty.insert ViewLink.viewKey (.str "everything"))⟩

def linkedBlob : Contents :=
  { linked with body := .blob (String.ofList (['\n',' '] ++ (encodeBlob links).toList ++ ['\t'])) }

end Sample

/-- Blanks of other scripts, comments and ends of lines do no harm to a list, nor do needs that are
no object. -/
theorem contents_plan_linked :
    let sandbox := NewView.Sample.sandbox
    ∃ plan, ofContents Sample.linkedBlob sandbox = .ok plan ∧
      ofContents Sample.linked sandbox = .ok plan ∧ plan.mode = .uriList ∧
      plan.content = "https://example.com/a" ∧ Renders .uriList Sample.links plan.content ∧
      (ofContents { Sample.linked with meta? := none } sandbox).map RenderPlan.sandbox =
        .ok plan.sandbox := by
  intro sandbox
  have loaded : (ofContents Sample.linked sandbox).map (fun plan => (plan.mode,plan.content)) =
      .ok (.uriList,"https://example.com/a") := by decide +kernel
  obtain ⟨travels,loads,policy⟩ := contents_plan Sample.linked sandbox
  have same : ofContents Sample.linkedBlob sandbox = ofContents Sample.linked sandbox :=
    travels Sample.links ['\n',' '] ['\t'] (List.all_eq_true.mp rfl) (List.all_eq_true.mp rfl)
  have misstated :=
    policy (.str "everything") _ rfl rfl { Sample.linked with meta? := none } rfl rfl rfl
  cases planned : ofContents Sample.linked sandbox with
  | error e => rw [planned] at loaded; cases loaded
  | ok plan =>
    rw [planned] at loaded misstated
    obtain ⟨mode,content⟩ := Prod.mk.inj (Except.ok.inj loaded)
    obtain ⟨text,read,renders,-⟩ := loads plan planned
    cases read
    rw [mode] at renders
    exact ⟨plan,same.trans planned,rfl,mode,content,renders,misstated.symm⟩

end RenderPlan

end ToolView
