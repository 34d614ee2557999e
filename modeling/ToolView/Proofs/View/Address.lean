import Mathlib
import ToolView.Proofs.View.Creation

/-! An address is read twice: by the server, which takes all of the text for one URL and drops what
counts nowhere in a URL, and by the host, which takes the text for a list of lines. Both see the
same URL where the text has one line with anything on it; a line break inside the address divides
what the server joins. -/

namespace ToolView

/-- White space that stands around a URL as well as around a line. -/
def isSpace (c : Char) : Bool := Text.isBlank c && Url.isPadding c

/-- The text is one line: above and beside it stands white space, below it nothing of a URL, and
it has no blank at its ends, of whatever script. -/
def OneLine (cs : List Char) : Prop :=
  ∃ above line beside below, cs = above ++ line ++ beside ++ below ∧ (∀ c ∈ above, isSpace c) ∧
    '\n' ∉ line ∧ Text.Trimmed Text.isBlank line ∧ '\n' ∉ beside ∧ (∀ c ∈ beside, isSpace c) ∧
    (∀ c ∈ below.head?, c = '\n') ∧ ∀ c ∈ below, Url.isPadding c

namespace Url

private theorem parseChars_congr {cs ds : List Char}
    (same : Text.trimBy isPadding cs = Text.trimBy isPadding ds) :
    parseChars cs = parseChars ds := by
  rw [parseChars,same]
  rfl

private theorem takeScheme?_head {c : Char} {cs : List Char} (counts : isIgnored c = false)
    (sign : c ≠ ':') (odd : c.isAlpha = false) : takeScheme? (c :: cs) = none := by
  have span : ∃ before after, (c :: cs).span (fun d => !(d == ':')) = (c :: before,after) := by
    rw [List.span_eq_takeWhile_dropWhile,List.takeWhile_cons,if_pos (by simpa using sign)]
    exact ⟨_,_,rfl⟩
  obtain ⟨before,after,span⟩ := span
  have kept : significant (c :: before) = c :: significant before := by
    rw [significant,List.filter_cons_of_pos (by rw [counts]; rfl)]
    rfl
  rw [takeScheme?,Text.cut?,span]
  cases after with
  | nil => rfl
  | cons d rest =>
    dsimp only [bind,Option.bind]
    rw [kept]
    simp only [odd,Bool.false_and,Bool.false_eq_true,if_false]

end Url

namespace RenderPlan

def names (line : List Char) : Bool := !line.isEmpty && line.head? != some '#'

def firstLine? (cs : List Char) : Option (List Char) :=
  ((Text.splitBy (· == '\n') cs).map Text.trim).find? names

theorem firstUri?_eq (cs : List Char) :
    firstUri? cs = (firstLine? cs).map String.ofList := by
  obtain ⟨ended,last,pieces⟩ := (List.eq_nil_or_concat' _).resolve_left
    (Text.splitBy_ne_nil (· == '\n') cs)
  have trimmed : (ended.map Text.dropReturn).map Text.trim = ended.map Text.trim := by
    rw [List.map_map]
    exact List.map_congr_left fun line _ => Text.trim_dropReturn line
  rw [firstUri?,firstLine?,Text.lines_eq pieces,pieces,List.map_append,List.map_append,trimmed]
  congr 1
  -- An empty last line is left out, and would not be taken.
  split_ifs with empty
  · rw [List.isEmpty_iff.mp empty,List.find?_append,List.find?_append]
    rfl
  · rfl

private theorem firstLine?_cons {c : Char} (blank : Text.isBlank c) (cs : List Char) :
    firstLine? (c :: cs) = firstLine? cs := by
  rw [firstLine?,firstLine?,Text.splitBy]
  split_ifs
  · rfl
  · cases pieces : Text.splitBy (· == '\n') cs with
    | nil => exact absurd pieces (Text.splitBy_ne_nil _ cs)
    | cons piece rest =>
      have trims : Text.trim (c :: piece) = Text.trim piece := Text.trimBy_cons blank piece
      rw [List.map_cons,trims,List.map_cons]

/-- The host takes the one line. -/
private theorem firstLine?_oneLine {above line beside below : List Char}
    (lead : ∀ c ∈ above, isSpace c) (joined : '\n' ∉ line) (trimmed : Text.Trimmed Text.isBlank line)
    (flat : '\n' ∉ beside) (space : ∀ c ∈ beside, isSpace c) (ends : ∀ c ∈ below.head?, c = '\n')
    (named : names line) : firstLine? (above ++ line ++ beside ++ below) = some line := by
  induction above with
  | cons c above ih =>
    obtain ⟨first,lead⟩ := List.forall_mem_cons.mp lead
    rw [List.cons_append,List.cons_append,List.cons_append,firstLine?_cons,ih lead]
    exact (Bool.and_eq_true_iff.mp first).1
  | nil =>
    have plain : ∀ c ∈ line ++ beside, (c == '\n') = false := by
      intro c member
      rw [beq_eq_false_iff_ne]
      rintro rfl
      exact (List.mem_append.mp member).elim joined flat
    have trim : Text.trim (line ++ beside) = line := by
      refine (Text.trimBy_append (fun c member => ?_) line).trans (Text.trimBy_eq_self trimmed)
      exact (Bool.and_eq_true_iff.mp (space c member)).1
    have pieces : ∃ rest, Text.splitBy (· == '\n') (line ++ beside ++ below) =
        (line ++ beside) :: rest := by
      cases below with
      | nil => exact ⟨[],by rw [List.append_nil]; exact Text.splitBy_of_not_mem plain⟩
      | cons c below =>
        have sign : (c == '\n') = true := beq_iff_eq.mpr (ends c rfl)
        exact ⟨_,Text.splitBy_append_cons plain sign below⟩
    obtain ⟨rest,pieces⟩ := pieces
    rw [List.nil_append,firstLine?,pieces,List.map_cons,trim,List.find?_cons,named]

/-- Around the line that the host takes stand blanks, lines that name no address above it and any
lines below it. -/
private theorem firstLine?_parts {cs line : List Char} (first : firstLine? cs = some line) :
    ∃ (skipped : List (List Char)) (lead beside : List Char) (later : List (List Char)),
      cs = skipped.flatMap (· ++ ['\n']) ++ (lead ++ line ++ beside) ++ later.flatMap ('\n' :: ·) ∧
        '\n' ∉ lead ++ line ++ beside ∧ Text.Trimmed Text.isBlank line ∧
        (∀ c ∈ lead, Text.isBlank c) ∧ (∀ c ∈ beside, Text.isBlank c) ∧
        ∀ other ∈ skipped, !names (Text.trim other) := by
  obtain ⟨_,_,_,trimmed,passed⟩ := List.find?_eq_some_iff_append.mp first
  obtain ⟨skipped,_,pieces,rfl,rest⟩ := List.map_eq_append_iff.mp trimmed
  obtain ⟨piece,later,rfl,rfl,_⟩ := List.map_eq_cons_iff.mp rest
  obtain ⟨same,joined⟩ := Text.splitBy_eq_append pieces
  obtain ⟨lead,beside,parts,leads,trails⟩ := Text.exists_trimBy Text.isBlank piece
  change piece = lead ++ Text.trim piece ++ beside at parts
  refine ⟨skipped,lead,beside,later,?_,?_,Text.trimmed_trimBy _ _,leads,trails,?_⟩
  · rw [← parts,same]
  · rwa [← parts]
  · exact fun other among => passed _ (List.mem_map_of_mem among)

/-- A line that names no address, and has nothing that counts in a URL, is blank. -/
private theorem blank_of_unnamed {line : List Char} (padding : ∀ c ∈ line, Url.isPadding c)
    (unnamed : !names (Text.trim line)) : ∀ c ∈ line, Text.isBlank c := by
  obtain ⟨before,after,parts,lead,trail⟩ := Text.exists_trimBy Text.isBlank line
  change line = before ++ Text.trim line ++ after at parts
  cases core : Text.trim line with
  | nil =>
    rw [core,List.append_nil] at parts
    intro c member
    exact (List.mem_append.mp (parts ▸ member)).elim (lead c) (trail c)
  | cons d rest =>
    -- Only the sign of a comment makes it unnamed, and that sign is no padding.
    rw [core] at parts unnamed
    have comment : d = '#' := by simpa [names] using unnamed
    have inside : d ∈ line := by
      rw [parts]
      simp
    have sign := padding d inside
    rw [comment] at sign
    cases sign

end RenderPlan

namespace OneLine

private theorem isPadding_of_isSpace {cs : List Char} (space : ∀ c ∈ cs, isSpace c) :
    ∀ c ∈ cs, Url.isPadding c :=
  fun c member => (Bool.and_eq_true_iff.mp (space c member)).2

/-- What begins a URL is a letter, and so does not make its line a comment. -/
private theorem names_of_parse {line : List Char} {u : Url} (parsed : Url.parseChars line = .ok u) :
    RenderPlan.names line := by
  cases line with
  | nil => cases parsed
  | cons c rest =>
    by_cases comment : c = '#'
    · subst comment
      obtain ⟨tail,core⟩ := Text.trimBy_cons_of_neg (p := Url.isPadding) (c := '#') rfl rest
      rw [Url.parseChars,core,Url.takeScheme?_head rfl (by decide) rfl] at parsed
      cases parsed
    · simp [RenderPlan.names,comment]

/-- The host takes from the text what the server took it for. -/
theorem firstUri {cs : List Char} (one : OneLine cs) {u : Url}
    (parsed : Url.parseChars cs = .ok u) :
    ∃ line, RenderPlan.firstUri? cs = some line ∧
      Text.trimBy Url.isPadding line.toList = Text.trimBy Url.isPadding cs := by
  obtain ⟨above,line,beside,below,rfl,lead,joined,trimmed,flat,space,ends,rest⟩ := one
  have trail : ∀ c ∈ beside ++ below, Url.isPadding c := fun c member =>
    (List.mem_append.mp member).elim (isPadding_of_isSpace space c) (rest c)
  have core := Text.trimBy_around (isPadding_of_isSpace lead) trail line
  rw [← List.append_assoc] at core
  rw [Url.parseChars_congr core] at parsed
  refine ⟨String.ofList line,?_,?_⟩
  · rw [RenderPlan.firstUri?_eq,RenderPlan.firstLine?_oneLine lead joined trimmed flat space ends
      (names_of_parse parsed)]
    rfl
  · rw [String.toList_ofList,core]

/-- A text of which the host takes all that counts in a URL is one line. -/
theorem of_firstUri {cs : List Char} {line : String}
    (first : RenderPlan.firstUri? cs = some line)
    (same : Text.trimBy Url.isPadding line.toList = Text.trimBy Url.isPadding cs) :
    OneLine cs := by
  rw [RenderPlan.firstUri?_eq,Option.map_eq_some_iff] at first
  obtain ⟨chars,found,rfl⟩ := first
  obtain ⟨skipped,lead,beside,later,parts,joined,trimmed,leads,trails,unnamed⟩ :=
    RenderPlan.firstLine?_parts found
  have parts : cs = skipped.flatMap (· ++ ['\n']) ++ lead ++ chars ++
      (beside ++ later.flatMap ('\n' :: ·)) := by
    rw [parts]
    simp only [List.append_assoc]
  -- Only padding can stand around the line, since the server drops nothing else at the ends.
  rw [String.toList_ofList,parts] at same
  obtain ⟨above,below⟩ := Text.forall_around same
  rw [List.forall_mem_append] at above below
  have blank : ∀ c ∈ skipped.flatMap (· ++ ['\n']), Text.isBlank c := by
    intro c member
    obtain ⟨other,among,inside⟩ := List.mem_flatMap.mp member
    rcases List.mem_append.mp inside with inside | ending
    · have padding : ∀ d ∈ other, Url.isPadding d := fun d member =>
        above.1 d (List.mem_flatMap.mpr ⟨other,among,List.mem_append_left _ member⟩)
      exact RenderPlan.blank_of_unnamed padding (unnamed other among) c inside
    · cases List.mem_singleton.mp ending
      rfl
  have ends : ∀ c ∈ (later.flatMap ('\n' :: ·)).head?, c = '\n' := by
    cases later with
    | nil => rintro c ⟨⟩
    | cons next later => rintro c ⟨⟩; rfl
  have space {ds : List Char} (blank : ∀ c ∈ ds, Text.isBlank c) (padding : ∀ c ∈ ds, Url.isPadding c) :
      ∀ c ∈ ds, isSpace c :=
    fun c member => Bool.and_eq_true_iff.mpr ⟨blank c member,padding c member⟩
  simp only [List.mem_append,not_or] at joined
  refine ⟨_,chars,beside,_,parts.trans (List.append_assoc _ _ _).symm,?_,joined.1.2,trimmed,joined.2,
    space trails below.1,ends,below.2⟩
  exact List.forall_mem_append.mpr ⟨space blank above.1,space leads above.2⟩

theorem iff_firstUri {cs : List Char} {u : Url} (parsed : Url.parseChars cs = .ok u) :
    OneLine cs ↔ ∃ line, RenderPlan.firstUri? cs = some line ∧
      Text.trimBy Url.isPadding line.toList = Text.trimBy Url.isPadding cs :=
  ⟨fun one => one.firstUri parsed,fun ⟨_,first,same⟩ => of_firstUri first same⟩

end OneLine

namespace NewView

/-- The address of a page is loaded as the URL that the server accepted it for, if it is one line. It
is one line exactly if the host takes from it what the server took it for, up to what counts
nowhere in a URL. -/
theorem url_view_plan {n : NewView} {address : String} (content : n.content = .url address)
    {u : Url} (parsed : Url.parse address = .ok u) (web : u.scheme = "http" ∨ u.scheme = "https")
    {v : ViewResource} (ok : n.create = .ok v) (sandbox : SandboxConfig) :
    (OneLine address.toList → ∃ plan, RenderPlan.ofContents v.resource sandbox = .ok plan ∧
      plan.mode = .uriList ∧ plan.content = u.write) ∧
    (OneLine address.toList ↔ ∃ line, RenderPlan.firstUri? address.toList = some line ∧
      Text.trimBy Url.isPadding line.toList = Text.trimBy Url.isPadding address.toList) := by
  refine ⟨?_,OneLine.iff_firstUri parsed⟩
  intro one
  obtain ⟨text,part,payload,plan⟩ := plan_of_create ok sandbox
  have text : text = address := by
    rw [content,ViewContent.payload,parsed] at payload
    cases payload
    rfl
  subst text
  obtain ⟨line,first,core⟩ := one.firstUri parsed
  have same : Url.parse line = .ok u := (Url.parseChars_congr core).trans parsed
  have loaded : RenderPlan.contentFor n.content.kind text = .ok u.write := by
    rw [content]
    change (RenderPlan.address text).mapError _ = _
    rw [RenderPlan.address,first]
    dsimp only
    rw [same]
    dsimp only
    rw [if_pos web]
    rfl
  rw [loaded] at plan
  exact ⟨_,plan,by rw [content]; rfl,rfl⟩

namespace Sample

def spaced : NewView := view (.url " \n https://example.com/a b?x=1 \r\n\n") .blob

def broken : NewView := view (.url "https://exa\nmple.com/") .text

end Sample

/-- Space around an address does no harm, also where lines stand above it and below it. -/
theorem url_view_plan_spaced :
    OneLine " \n https://example.com/a b?x=1 \r\n\n".toList ∧
      ∃ v plan, Sample.spaced.create = .ok v ∧
        RenderPlan.ofContents v.resource Sample.sandbox = .ok plan ∧ plan.mode = .uriList ∧
        plan.content = "https://example.com/a%20b?x=1" := by
  have one : OneLine " \n https://example.com/a b?x=1 \r\n\n".toList := by
    refine ⟨[' ','\n',' '],"https://example.com/a b?x=1".toList,[' ','\r'],['\n','\n'],rfl,
      List.all_eq_true.mp rfl,by decide +kernel,⟨?_,?_⟩,by decide,List.all_eq_true.mp rfl,?_,
      List.all_eq_true.mp rfl⟩
    all_goals
      rintro _ ⟨⟩
      rfl
  have parsed : Url.parse " \n https://example.com/a b?x=1 \r\n\n" = .ok ⟨"https","",none,
      some (.domain "example.com"),none,.segments ["a%20b"],some "x=1",none⟩ := by decide +kernel
  obtain ⟨v,made⟩ := exists_create (n := Sample.spaced) (by decide +kernel)
  obtain ⟨plan,drawn,mode,loaded⟩ :=
    (url_view_plan rfl parsed (.inr rfl) made Sample.sandbox).1 one
  have written : plan.content = "https://example.com/a%20b?x=1" := loaded.trans (by decide +kernel)
  exact ⟨one,v,plan,made,drawn,mode,written⟩

/-- A line break inside an address is dropped by the server, and ends the address for the host. -/
theorem url_view_broken :
    let accepted : Url :=
      ⟨"https","",none,some (.domain "example.com"),none,.segments [""],none,none⟩
    let made : Contents := ⟨"ui://sample/view",some ViewKind.uriList.mimeType,
      .text "https://exa\nmple.com/",none⟩
    Sample.broken.content = .url "https://exa\nmple.com/" ∧
      Url.parse "https://exa\nmple.com/" = .ok accepted ∧
      Sample.broken.create = .ok ⟨made,.none⟩ ∧
      ∃ plan, RenderPlan.ofContents made Sample.sandbox = .ok plan ∧ plan.content = "https://exa/" ∧
        plan.content ≠ accepted.write := by
  intro accepted made
  have parsed : Url.parse "https://exa\nmple.com/" = .ok accepted := by decide +kernel
  have created : Sample.broken.create = .ok ⟨made,.none⟩ := by decide +kernel
  have loaded : (RenderPlan.ofContents made Sample.sandbox).map (·.content) = .ok "https://exa/" := by
    decide +kernel
  have written : accepted.write = "https://example.com/" := by decide +kernel
  cases drawn : RenderPlan.ofContents made Sample.sandbox with
  | error e => rw [drawn] at loaded; cases loaded
  | ok plan =>
    rw [drawn] at loaded
    have content : plan.content = "https://exa/" := Except.ok.inj loaded
    refine ⟨rfl,parsed,created,plan,rfl,content,?_⟩
    rw [content,written]
    decide

end NewView

end ToolView
