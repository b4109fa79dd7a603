import Mathlib.Data.List.Forall2
import Recon.Cli.Arguments

/-! What reading a command line keeps and what it can come to. A property of the values taken that no further
value destroys holds at the end of every level, whatever the words and their forms; and every scan with options
that can be read is what some command line asks for. -/
namespace Recon

lemma Text.splitOnce_append {c : Char} {a : List Char} (h : c ∉ a) (b : List Char) :
    splitOnce c (a ++ c :: b) = some (a,b) := by
  induction a with
  | nil => simp [splitOnce]
  | cons d a ih =>
    obtain ⟨hd,ha⟩ := not_or.mp (mt List.mem_cons.mpr h)
    simp [splitOnce,Ne.symm hd,ih ha]

namespace Cli

lemma exists_of_bind_eq_ok {ε α β : Type} {x : Except ε α} {f : α → Except ε β} {b : β}
    (h : x.bind f = .ok b) : ∃ a, x = .ok a ∧ f a = .ok b := by
  cases x with
  | error => cases h
  | ok a => exact ⟨a,rfl,h⟩

lemma exists_of_map_eq_ok {ε α β : Type} {x : Except ε α} {f : α → β} {b : β}
    (h : x.map f = .ok b) : ∃ a, x = .ok a ∧ f a = b := by
  cases x with
  | error => cases h
  | ok a => exact ⟨a,rfl,Except.ok.inj h⟩

/-- A property of the values taken that outlives every further value. -/
structure Given.Kept (P : Given → Prop) : Prop where
  put : ∀ {g g' : Given} {slot : Slot} {s : String}, P g → g.put slot s = .ok g' → P g'
  raise : ∀ {g g' : Given} {e : Effect}, P g → g.raise e = .ok g' → P g'

namespace Given.Kept

variable {P : Given → Prop} (kept : Given.Kept P) {l : Level} {r r' : Reading}
include kept

lemma settle (hr : P r.given) (h : r.settle = .ok r') : P r'.given := by
  unfold Reading.settle at h
  split at h
  · cases h
    exact hr
  · cases h
  · obtain ⟨g,hg,rfl⟩ := exists_of_map_eq_ok h
    exact kept.put hr hg

lemma putNow {slot : Slot} {cs : List Char} (hr : P r.given) (h : r.put slot cs = .ok r') : P r'.given := by
  obtain ⟨settled,hs,h⟩ := exists_of_bind_eq_ok h
  obtain ⟨g,hg,rfl⟩ := exists_of_map_eq_ok h
  exact kept.put (kept.settle hr hs) hg

lemma await {slot : Slot} (hr : P r.given) (h : r.await slot = .ok r') : P r'.given := by
  obtain ⟨settled,hs,rfl⟩ := exists_of_map_eq_ok h
  have hg := kept.settle hr hs
  exact hg

lemma raiseNow {e : Effect} (hr : P r.given) (h : r.raise e = .ok r') : P r'.given := by
  obtain ⟨settled,hs,h⟩ := exists_of_bind_eq_ok h
  obtain ⟨g,hg,rfl⟩ := exists_of_map_eq_ok h
  exact kept.raise (kept.settle hr hs) hg

lemma long {name : List Char} {value : Option (List Char)} (hr : P r.given)
    (h : r.long l name value = .ok r') : P r'.given := by
  unfold Reading.long at h
  split at h
  · cases h
  · exact kept.putNow hr h
  · exact kept.await hr h
  · cases h
  · exact kept.raiseNow hr h

lemma short {letters : List Char} (hr : P r.given) (h : Reading.short l letters r = .ok r') :
    P r'.given := by
  induction letters generalizing r with
  | nil =>
    cases h
    exact hr
  | cons c cs ih =>
    unfold Reading.short at h
    split at h
    · cases h
    · split at h
      · exact kept.await hr h
      · exact kept.putNow hr h
      · exact kept.putNow hr h
    · obtain ⟨raised,he,h⟩ := exists_of_bind_eq_ok h
      exact ih (kept.raiseNow hr he) h

lemma place {s : String} (hr : P r.given) (h : r.place l s = .ok r') : P r'.given := by
  unfold Reading.place at h
  split at h
  · split at h
    · cases h
    · obtain ⟨settled,hs,rfl⟩ := exists_of_map_eq_ok h
      have hg := kept.settle hr hs
      exact hg
  · split at h <;> cases h

lemma word {s : String} (hr : P r.given) (h : r.word l s = .ok r') : P r'.given := by
  unfold Reading.word at h
  split at h
  · exact kept.place hr h
  · split at h
    · cases h
      exact hr
    · exact kept.long hr h
    · exact kept.short hr h
    · split at h
      · cases h
        exact hr
      · exact kept.place hr h

lemma words {ws : List String} {command : Option (String × List String)} (hr : P r.given)
    (h : Reading.words l r ws = .ok (r',command)) : P r'.given := by
  induction ws generalizing r with
  | nil =>
    cases h
    exact hr
  | cons s ws ih =>
    unfold Reading.words at h
    split at h
    · cases h
      exact hr
    · obtain ⟨next,hn,h⟩ := exists_of_bind_eq_ok h
      exact ih (kept.word hr hn) h

lemma close {environment path : Option String} {g : Given} (hr : P r.given)
    (h : r.close environment = .ok (g,path)) : P g := by
  obtain ⟨settled,hs,h⟩ := exists_of_bind_eq_ok h
  have hg := kept.settle hr hs
  split at h
  · obtain ⟨_,_,h⟩ := exists_of_map_eq_ok h
    cases h
    exact hg
  · cases h
    exact hg

/-- A level ends with the property that it begins with. -/
theorem readLevel {environment : Option String} {ws : List String} {g : Given} (start : P {})
    (h : readLevel l environment ws = .ok g) : P g := by
  obtain ⟨⟨r,command⟩,hr,h⟩ := exists_of_bind_eq_ok h
  obtain ⟨⟨g',path⟩,hc,rfl⟩ := exists_of_map_eq_ok h
  exact kept.close (kept.words start hr) hc

end Given.Kept

/-- Each option was written as a key and a value around an equals sign. -/
def Given.OptionsRead (g : Given) : Prop := ∀ o ∈ g.options, ∃ text, readOption? text = some o

lemma Given.kept_optionsRead : Given.Kept Given.OptionsRead where
  put {g g' slot s} hg h := by
    cases slot with
    | option =>
      unfold put at h
      dsimp only at h
      split at h
      · cases h
      · next o ho =>
        cases h
        intro o' hm
        obtain hm | hm := List.mem_append.mp hm
        · exact hg o' hm
        · rw [List.mem_singleton.mp hm]
          exact ⟨s,ho⟩
    | settingsFile | tool | template | pipelineFile | project | target | timeout =>
      obtain ⟨v,_,rfl⟩ := exists_of_map_eq_ok h
      exact hg
  raise {g g' e} hg h := by
    cases e <;> cases h
    exact hg

lemma Given.eq_some_of_required {α : Type} {a : Option α} {b : α} (h : required a = .ok b) : a = some b := by
  cases a with
  | none => cases h
  | some => exact congrArg some (Except.ok.inj h)

lemma Given.values_of_scanRequest {g : Given} {r : ScanRequest} (h : g.scanRequest = .ok r) :
    g.tool = some r.tool ∧ g.project = some r.projectId ∧ g.target = some r.target ∧ g.options = r.options ∧
      g.timeout = r.timeout := by
  obtain ⟨tool,ht,h⟩ := exists_of_bind_eq_ok h
  obtain ⟨project,hp,h⟩ := exists_of_bind_eq_ok h
  obtain ⟨target,hn,h⟩ := exists_of_bind_eq_ok h
  cases h
  exact ⟨eq_some_of_required ht,eq_some_of_required hp,eq_some_of_required hn,rfl,rfl⟩

/-- A scan that is asked for has the values that were given after its command. -/
theorem scan_of_readArguments {environment : Option String} {ws : List String} {i : Invocation} {r : ScanRequest}
    (h : readArguments environment ws = .ok i) (asked : i.task = .scan r) :
    ∃ rest g, readLevel .scan environment rest = .ok g ∧ g.scanRequest = .ok r := by
  obtain ⟨⟨outer,command⟩,_,h⟩ := exists_of_bind_eq_ok h
  cases command with
  | none =>
    obtain ⟨_,_,h⟩ := exists_of_bind_eq_ok h
    dsimp only at h
    split at h <;> cases h
  | some c =>
    obtain ⟨command,rest⟩ := c
    obtain ⟨⟨inner,task⟩,hc,h⟩ := exists_of_bind_eq_ok h
    obtain ⟨_,_,rfl⟩ := exists_of_map_eq_ok h
    cases asked
    unfold readCommand at hc
    split at hc
    · obtain ⟨_,_,hc⟩ := exists_of_map_eq_ok hc
      cases hc
    · obtain ⟨_,_,hc⟩ := exists_of_map_eq_ok hc
      cases hc
    · obtain ⟨_,_,hc⟩ := exists_of_bind_eq_ok hc
      obtain ⟨_,_,hc⟩ := exists_of_map_eq_ok hc
      cases hc
    · obtain ⟨g,hg,hc⟩ := exists_of_bind_eq_ok hc
      obtain ⟨_,hr,hc⟩ := exists_of_map_eq_ok hc
      cases hc
      exact ⟨rest,_,hg,hr⟩
    · cases hc

/-- The options of a scan were read from texts. -/
theorem options_of_readArguments {environment : Option String} {ws : List String} {i : Invocation}
    {r : ScanRequest} (h : readArguments environment ws = .ok i) (asked : i.task = .scan r) :
    ∀ o ∈ r.options, ∃ text, readOption? text = some o := by
  obtain ⟨_,_,hg,hr⟩ := scan_of_readArguments h asked
  rw [← (Given.values_of_scanRequest hr).2.2.2.1]
  exact Given.kept_optionsRead.readLevel (by simp [Given.OptionsRead]) hg

lemma Word.ofText_long {name : List Char} (hn : name ≠ []) (h : '=' ∉ name) (value : List Char) :
    ofText ('-' :: '-' :: (name ++ '=' :: value)) = .long name (some value) := by
  obtain ⟨c,cs,rfl⟩ := List.exists_cons_of_ne_nil hn
  have hs := Text.splitOnce_append h value
  rw [List.cons_append] at hs ⊢
  simp only [ofText,hs]

namespace Reading

/-- An option with its value in one word. -/
def attached (name value : String) : String := "--" ++ name ++ "=" ++ value

lemma word_attached {l : Level} {g : Given} {name : String} {slot : Slot} (hn : name.toList ≠ [])
    (h : '=' ∉ name.toList) (known : l.effectOfName? name.toList = some (.takes slot)) (value : String) :
    ({ given := g } : Reading).word l (attached name value) =
      (g.put slot value).map fun g => { given := g } := by
  have hw : Word.ofText (attached name value).toList = .long name.toList (some value.toList) := by
    rw [← Word.ofText_long hn h]
    simp [attached]
  unfold word long
  simp only [hw,known]
  unfold put settle
  simp [Except.bind]

lemma words_attached {l : Level} (hl : l.commands = []) {g g' : Given} {name value : String} {slot : Slot}
    (hn : name.toList ≠ []) (h : '=' ∉ name.toList) (known : l.effectOfName? name.toList = some (.takes slot))
    (hp : g.put slot value = .ok g') (ws : List String) :
    words l { given := g } (attached name value :: ws) = words l { given := g' } ws := by
  rw [words,word_attached hn h known,hp]
  simp [hl,Except.map,Except.bind]

lemma words_options {texts : List String} {options : List (String × String)}
    (h : List.Forall₂ (fun text o => readOption? text = some o) texts options) (g : Given) (ws : List String) :
    words .scan { given := g } (texts.map (attached "option") ++ ws) =
      words .scan { given := { g with options := g.options ++ options } } ws := by
  induction h generalizing g with
  | nil => simp
  | @cons text o texts options ho _ ih =>
    have hp : g.put .option text = .ok { g with options := g.options ++ [o] } := by simp [Given.put,ho]
    rw [List.map_cons,List.cons_append,words_attached rfl (by decide) (by decide) (by decide) hp,ih]
    simp

lemma words_inPlace {l : Level} {slot : Slot} (hl : l.commands = []) (place : l.inPlace = some slot)
    (g : Given) (s : String) :
    words l { given := g } ["--",s] = .ok
      ({ given := g, pending := some (slot,some s), escaped := true, placed := true },none) := by
  have escape : ({ given := g } : Reading).word l "--" = .ok { given := g, escaped := true } := rfl
  have placed : ({ given := g, escaped := true } : Reading).word l s =
      .ok { given := g, pending := some (slot,some s), escaped := true, placed := true } := by
    simp [word,Reading.place,place,settle,Except.map]
  simp [words,hl,escape,placed,Except.bind]

end Reading

/-- A scan as a command line; the tool comes last and stands as it is. -/
def scanWords (tool project target : String) (texts : List String) (timeout : Option String) : List String :=
  "scan" :: Reading.attached "project" project :: Reading.attached "target" target ::
    (texts.map (Reading.attached "option") ++
      ((timeout.map (Reading.attached "timeout")).toList ++ ["--",tool]))

/-- Any tool, target and options can be asked for. -/
theorem readArguments_scanWords {tool project target : String} {projectId : UInt64} {texts : List String}
    {options : List (String × String)} {timeout : Option String} (hp : Given.projectId project = .ok projectId)
    (ho : List.Forall₂ (fun text o => readOption? text = some o) texts options) :
    readArguments none (scanWords tool project target texts timeout) =
      .ok { task := .scan ⟨tool,projectId,target,options,timeout⟩ } := by
  have hi : Given.put {} .project project = .ok { project := some projectId } := by
    simp [Given.put,Given.once,hp,Except.map]
  have ht : Given.put { project := some projectId } .target target =
      .ok { project := some projectId, target := some target } := rfl
  have hr : readLevel .scan none (scanWords tool project target texts timeout).tail = .ok
      { tool := some tool, project := some projectId, target := some target, options := options,
        timeout := timeout } := by
    unfold readLevel scanWords
    rw [List.tail_cons,Reading.words_attached rfl (by decide) (by decide) (by decide) hi,
      Reading.words_attached rfl (by decide) (by decide) (by decide) ht,Reading.words_options ho]
    have place : Level.scan.inPlace = some .tool := rfl
    cases timeout with
    | none =>
      simp only [Option.map_none,Option.toList_none,List.nil_append]
      rw [Reading.words_inPlace rfl place]
      rfl
    | some limit =>
      have known : Level.scan.effectOfName? "timeout".toList = some (.takes .timeout) := by decide
      simp only [Option.map_some,Option.toList_some,List.nil_append,List.singleton_append]
      rw [Reading.words_attached rfl (by decide) (by decide) known rfl,Reading.words_inPlace rfl place]
      rfl
  have hw : Reading.words .program {} (scanWords tool project target texts timeout) =
      .ok ({},some ("scan",(scanWords tool project target texts timeout).tail)) := rfl
  unfold readArguments
  rw [hw]
  simp only [Except.bind,readCommand,hr]
  rfl

end Cli
end Recon
