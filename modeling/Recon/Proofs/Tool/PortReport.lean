import Recon.Proofs.Tool.PortEntry
import Recon.Proofs.Xml.Writing

/-! Reports of ports, written and read. Every list of hosts has a report, and each of its reports, whatever else stands
in it, is read as the ports of all hosts, or not at all when one of them is no port. -/
namespace Recon.Nmap

open Xml

section Fields

/-- Attributes with their raw values, of which some are missing. -/
def attributesOf (fields : List (String × Option (List Char))) : List (List Char × List Char) :=
  fields.flatMap fun f => f.2.toList.map (f.1.toList,·)

/-- Names of attributes that can stand in one tag. -/
structure Names (names : List String) : Prop where
  named : ∀ n ∈ names, IsName n.toList
  plain : ∀ n ∈ names, Plain n
  distinct : names.Nodup

/-- Attributes that can be written in one tag. -/
structure Writable (fields : List (String × Option (List Char))) : Prop where
  names : Names (fields.map (·.1))
  unquoted : ∀ f ∈ fields, ∀ raw ∈ f.2, '"' ∉ raw

variable {α : Type} {R : List Char → α → Prop} {name : String} {fields : List (String × Option (List Char))}

lemma mem_attributesOf {a : List Char × List Char} (h : a ∈ attributesOf fields) :
    ∃ f ∈ fields, a.1 = f.1.toList ∧ f.2 = some a.2 := by
  obtain ⟨f,listed,own⟩ := List.mem_flatMap.mp h
  obtain ⟨raw,valued,rfl⟩ := List.mem_map.mp own
  exact ⟨f,listed,rfl,by simpa using valued⟩

lemma attributesOf_cons (f : String × Option (List Char)) : attributesOf (f :: fields) =
    f.2.toList.map (f.1.toList,·) ++ attributesOf fields := rfl

lemma Writable.legible (h : Writable fields) : Legible (attributesOf fields) where
  named a inside := by
    obtain ⟨f,listed,same,-⟩ := mem_attributesOf inside
    exact same ▸ h.names.named _ (List.mem_map_of_mem listed)
  unquoted a inside := by
    obtain ⟨f,listed,-,valued⟩ := mem_attributesOf inside
    exact h.unquoted f listed a.2 valued
  distinct := by
    have apart := h.names.distinct
    clear h
    induction fields with
    | nil => exact List.nodup_nil
    | cons f fields ih =>
      rw [List.map_cons,List.nodup_cons] at apart
      rw [attributesOf_cons]
      cases valued : f.2 with
      | none => exact ih apart.2
      | some raw =>
        refine List.nodup_cons.mpr ⟨fun again => apart.1 ?_,ih apart.2⟩
        obtain ⟨a,listed,same⟩ := List.mem_map.mp again
        obtain ⟨g,inside,key,-⟩ := mem_attributesOf listed
        exact String.toList_inj.mp (same.symm.trans key) ▸ List.mem_map_of_mem inside

lemma tells_attributesOf_cons {f : String × Option (List Char)} {o : Option α} (plain : Plain f.1) (other : f.1 ≠ name)
    (more : Tells R name (attributesOf fields) o) : Tells R name (attributesOf (f :: fields)) o := by
  rw [attributesOf_cons]
  cases f.2 with
  | none => exact more
  | some raw =>
    refine .other (.inr ?_) more
    rw [plain.whole]
    exact mt String.toList_inj.mp other

lemma tells_none_of_notMem (plain : ∀ n ∈ fields.map (·.1), Plain n) (missing : name ∉ fields.map (·.1)) :
    Tells R name (attributesOf fields) none := by
  induction fields with
  | nil => exact .nil
  | cons f fields ih =>
    rw [List.map_cons,List.forall_mem_cons] at plain
    rw [List.map_cons,List.mem_cons,not_or] at missing
    exact tells_attributesOf_cons plain.1 (Ne.symm missing.1) (ih plain.2 missing.2)

/-- Each attribute tells what is written for it. -/
theorem Writable.tells {spell : α → List Char} {o : Option α} (h : Writable fields)
    (listed : (name,o.map spell) ∈ fields) (means : ∀ a, R (spell a) a) : Tells R name (attributesOf fields) o := by
  obtain ⟨⟨-,plain,distinct⟩,-⟩ := h
  induction fields with
  | nil => cases listed
  | cons f fields ih =>
    rw [List.map_cons,List.forall_mem_cons] at plain
    rw [List.map_cons,List.nodup_cons] at distinct
    obtain rfl | later := List.mem_cons.mp listed
    · have rest : Tells R name (attributesOf fields) none := tells_none_of_notMem plain.2 distinct.1
      cases o with
      | none => exact rest
      | some a => exact .own (means a) rest
    · refine tells_attributesOf_cons plain.1 ?_ (ih later plain.2 distinct.2)
      rintro rfl
      exact distinct.1 (List.mem_map.mpr ⟨_,later,rfl⟩)

end Fields

section Nodes

variable {α β : Type} {P : List Char → List Node → α → Prop} {name : String} {ns : List Node}

/-- The node of an item is its element. -/
def IsNodeOf (P : List Char → List Node → α → Prop) (name : String) (node : α → Node) : Prop :=
  ∀ a, ∃ raw children, node a = .element name.toList raw children ∧ P raw children a

lemma items_map_append {node : α → Node} (own : IsNodeOf P name node) (is : List α) {js : List α}
    (more : Items P name ns js) : Items P name (is.map node ++ ns) (is ++ js) := by
  induction is with
  | nil => exact more
  | cons i is ih =>
    obtain ⟨raw,children,spelled,item⟩ := own i
    rw [List.map_cons,spelled]
    exact .own item ih

lemma items_others_append {Q : List Char → List Node → β → Prop} {other : String} {node : β → Node}
    (own : IsNodeOf Q other node) (unlike : localName other.toList ≠ name.toList) {js : List β} {is : List α}
    (more : Items P name ns is) : Items P name (js.map node ++ ns) is := by
  induction js with
  | nil => exact more
  | cons j js ih =>
    obtain ⟨raw,children,spelled,-⟩ := own j
    rw [List.map_cons,spelled]
    exact .other unlike ih

lemma items_map {node : α → Node} (own : IsNodeOf P name node) (is : List α) : Items P name (is.map node) is := by
  have whole := items_map_append own is .nil
  rwa [List.append_nil,List.append_nil] at whole

lemma items_others {Q : List Char → List Node → β → Prop} {other : String} {node : β → Node}
    (own : IsNodeOf Q other node) (unlike : localName other.toList ≠ name.toList) (js : List β) :
    Items P name (js.map node) [] := by
  rw [← List.append_nil (js.map node)]
  exact items_others_append own unlike .nil

end Nodes

section Texts

def spelled (s : String) : List Char := escaped s.toList

def numeral (n : Int) : List Char := if n < 0 then '-' :: Text.decimal n.natAbs else Text.decimal n.natAbs

def tagText (name : String) (fields : List (String × Option (List Char))) (inner : List Char) : List Char :=
  elementText name.toList (attributesOf fields) inner

def tagNode (name : String) (fields : List (String × Option (List Char))) (children : List Node) : Node :=
  .element name.toList (attributesText (attributesOf fields)) children

def stateFields (state : Option String) : List (String × Option (List Char)) := [("state",state.map spelled)]

def serviceFields (s : ServiceEntry) : List (String × Option (List Char)) :=
  [("name",s.name.map spelled),("product",s.product.map spelled),("version",s.version.map spelled),
    ("extrainfo",s.extra.map spelled)]

def portFields (e : PortEntry) : List (String × Option (List Char)) :=
  [("protocol",e.protocol.map spelled),("portid",e.number.map numeral)]

def stateText (state : Option String) : List Char := tagText "state" (stateFields state) []
def stateNode (state : Option String) : Node := tagNode "state" (stateFields state) []

def serviceText (s : ServiceEntry) : List Char := tagText "service" (serviceFields s) []
def serviceNode (s : ServiceEntry) : Node := tagNode "service" (serviceFields s) []

def portText (e : PortEntry) : List Char :=
  tagText "port" (portFields e) (e.state.toList.flatMap stateText ++ e.service.toList.flatMap serviceText)

def portNode (e : PortEntry) : Node :=
  tagNode "port" (portFields e) (e.state.toList.map stateNode ++ e.service.toList.map serviceNode)

def portsText (es : List PortEntry) : List Char := tagText "ports" [] (es.flatMap portText)
def portsNode (es : List PortEntry) : Node := tagNode "ports" [] (es.map portNode)

def hostText (ports : Option (List PortEntry)) : List Char := tagText "host" [] (ports.toList.flatMap portsText)
def hostNode (ports : Option (List PortEntry)) : Node := tagNode "host" [] (ports.toList.map portsNode)

/-- A report on hosts with nothing else in it. -/
def reportText (hosts : List (Option (List PortEntry))) : List Char := tagText "nmaprun" [] (hosts.flatMap hostText)

variable {name : String} {fields : List (String × Option (List Char))} {inner : List Char} {children : List Node}

lemma numeral_numeral (n : Int) : Numeral (numeral n) n := by
  have digital : ∀ d ∈ Text.decimal n.natAbs, d.isDigit = true := fun d => Text.isDigit_of_mem_decimal
  have value := Text.digitsFrom_decimal n.natAbs
  unfold numeral
  split
  · next negative =>
    have same : -(n.natAbs : Int) = n := by omega
    have below := Numeral.below digital (by omega)
    rwa [value,same] at below
  · next natural =>
    have same : (n.natAbs : Int) = n := by omega
    have whole := Numeral.whole (Text.decimal_ne_nil n.natAbs) digital
    rwa [value,same] at whole

lemma quote_not_mem_numeral (n : Int) : '"' ∉ numeral n := by
  have digital : '"' ∉ Text.decimal n.natAbs := fun inside => absurd (Text.isDigit_of_mem_decimal inside) (by decide)
  unfold numeral
  split
  · simpa using digital
  · exact digital

lemma unquoted_map {α : Type} {spell : α → List Char} (unquoted : ∀ a, '"' ∉ spell a) (o : Option α) :
    ∀ raw ∈ o.map spell, '"' ∉ raw := by
  intro raw spelled
  obtain ⟨a,-,rfl⟩ := Option.map_eq_some_iff.mp spelled
  exact unquoted a

lemma quote_not_mem_spelled (s : String) : '"' ∉ spelled s := quote_not_mem_escaped s.toList

lemma spells_spelled (s : String) : Spells (spelled s) s := spelling_escaped s.toList

lemma writable_nil : Writable [] := ⟨⟨by decide,by decide,by decide⟩,nofun⟩

lemma writable_stateFields (state : Option String) : Writable (stateFields state) where
  names := by
    change Names ["state"]
    exact ⟨by decide,by decide,by decide⟩
  unquoted := by
    simp only [stateFields,List.forall_mem_singleton]
    exact unquoted_map quote_not_mem_spelled state

lemma writable_serviceFields (s : ServiceEntry) : Writable (serviceFields s) where
  names := by
    change Names ["name","product","version","extrainfo"]
    exact ⟨by decide,by decide,by decide⟩
  unquoted := by
    simp only [serviceFields,List.forall_mem_cons]
    exact ⟨unquoted_map quote_not_mem_spelled _,unquoted_map quote_not_mem_spelled _,
      unquoted_map quote_not_mem_spelled _,unquoted_map quote_not_mem_spelled _,nofun⟩

lemma writable_portFields (e : PortEntry) : Writable (portFields e) where
  names := by
    change Names ["protocol","portid"]
    exact ⟨by decide,by decide,by decide⟩
  unquoted := by
    simp only [portFields,List.forall_mem_cons]
    exact ⟨unquoted_map quote_not_mem_spelled _,unquoted_map quote_not_mem_numeral _,nofun⟩

lemma isState_stateNode : IsNodeOf IsState "state" stateNode := fun state =>
  ⟨_,_,rfl,.mk (writable_stateFields state).legible.attributes
    ((writable_stateFields state).tells List.mem_cons_self spells_spelled)⟩

lemma isService_serviceNode : IsNodeOf IsService "service" serviceNode := fun s => by
  have writable := writable_serviceFields s
  refine ⟨_,_,rfl,.mk writable.legible.attributes ?_ ?_ ?_ ?_⟩
  · exact writable.tells (by simp [serviceFields]) spells_spelled
  · exact writable.tells (by simp [serviceFields]) spells_spelled
  · exact writable.tells (by simp [serviceFields]) spells_spelled
  · exact writable.tells (by simp [serviceFields]) spells_spelled

lemma isPort_portNode : IsNodeOf IsPort "port" portNode := fun e => by
  have writable := writable_portFields e
  refine ⟨_,_,rfl,.mk writable.legible.attributes ?_ ?_ ?_ ?_⟩
  · exact writable.tells (by simp [portFields]) spells_spelled
  · exact writable.tells (by simp [portFields]) numeral_numeral
  · have states := items_map_append isState_stateNode e.state.toList
      (items_others isService_serviceNode (by decide) e.service.toList)
    rwa [List.append_nil] at states
  · exact items_others_append isState_stateNode (by decide) (items_map isService_serviceNode _)

lemma isPorts_portsNode : IsNodeOf IsPorts "ports" portsNode := fun _ =>
  ⟨_,_,rfl,.mk writable_nil.legible.attributes (items_map isPort_portNode _)⟩

lemma isHost_hostNode : IsNodeOf IsHost "host" hostNode := fun _ =>
  ⟨_,_,rfl,.mk writable_nil.legible.attributes (items_map isPorts_portsNode _)⟩

lemma writes_tagText (named : IsName name.toList) (writable : Writable fields)
    (inside : Contents inner children) : Writes (tagText name fields inner) (tagNode name fields children) :=
  writes_elementText named writable.legible inside

lemma writes_stateText (state : Option String) : Writes (stateText state) (stateNode state) :=
  writes_tagText (by decide) (writable_stateFields state) (.last run_nil)

lemma writes_serviceText (s : ServiceEntry) : Writes (serviceText s) (serviceNode s) :=
  writes_tagText (by decide) (writable_serviceFields s) (.last run_nil)

lemma writes_portText (e : PortEntry) : Writes (portText e) (portNode e) := by
  have services := contents_flatMap writes_serviceText e.service.toList
  exact writes_tagText (by decide) (writable_portFields e)
    (contents_flatMap_append writes_stateText e.state.toList services)

lemma writes_portsText (es : List PortEntry) : Writes (portsText es) (portsNode es) :=
  writes_tagText (by decide) writable_nil (contents_flatMap writes_portText es)

lemma writes_hostText (ports : Option (List PortEntry)) : Writes (hostText ports) (hostNode ports) :=
  writes_tagText (by decide) writable_nil (contents_flatMap writes_portsText ports.toList)

lemma prologue_nil : Prologue [] := .last (by decide)

/-- A report is written around the texts of its hosts. -/
theorem reports_of_contents {front : List Char} {hosts : List (Option (List PortEntry))} (prologue : Prologue front)
    (named : IsName name.toList) (writable : Writable fields) (inside : Contents inner children)
    (items : Items IsHost "host" children hosts) (after : List Char) :
    Reports (front ++ tagText name fields inner ++ after) hosts :=
  have attributes := writable.legible.attributes
  .mk (.mk prologue named attributes inside (encloses_elementText _ _ _)) attributes items

lemma reports_reportText (hosts : List (Option (List PortEntry))) : Reports (reportText hosts) hosts := by
  have named : IsName "nmaprun".toList := by decide
  have alone := reports_of_contents prologue_nil named writable_nil (contents_flatMap writes_hostText hosts)
    (items_map isHost_hostNode _) []
  rwa [List.nil_append,List.append_nil] at alone

end Texts

/-- Every list of hosts has a report, and any of its reports gives the ports of all hosts in order, each with what is
said of it and nothing else. It gives none at all just if an entry has a number that no port has, or lacks its protocol,
its number, its state or the name of its service. -/
theorem ports_read_back :
    (∀ cs hosts, Reports cs hosts →
      (∀ ports, readReport (String.ofList cs) = some ports ↔ List.Forall₂ PortEntry.Gives (entries hosts) ports) ∧
      (readReport (String.ofList cs) = none ↔ ∃ e ∈ entries hosts, e.Faulty)) ∧
    ∀ hosts, ∃ cs, Reports cs hosts := by
  refine ⟨fun cs hosts reports => ⟨fun ports => ?_,?_⟩,fun hosts => ⟨_,reports_reportText hosts⟩⟩
  · simp only [reports.readReport,mapM_eq_some_iff,PortEntry.port?_eq_some_iff]
  · simp only [reports.readReport,mapM_eq_none_iff,PortEntry.port?_eq_none_iff]

section Mixed

def sshEntry : PortEntry where
  protocol := some "tcp"
  number := some 22
  state := some (some "open")
  service := some ⟨some "s&h",some "Open\"SSH\"",none,none⟩

def dnsEntry : PortEntry where
  protocol := some "udp"
  number := some 65535
  state := some (some "open|filtered")
  service := none

/-- Between two hosts a comment and an element that is no host but has a port in it. -/
def mixedContents : List Char :=
  hostText (some [sshEntry]) ++ ("\n".toList ++ "<!-- <host> -->".toList ++
    (tagText "task" [("host",some ['>'])] (portText sshEntry) ++ [none,some [dnsEntry]].flatMap hostText))

def mixedReport : List Char := "<!DOCTYPE nmaprun>".toList ++ tagText "nmaprun" [] mixedContents ++ "\n<host".toList

lemma reports_mixedReport : Reports mixedReport [some [sshEntry],none,some [dnsEntry]] := by
  have doctype : Prologue "<!DOCTYPE nmaprun>".toList := by
    have spelled : "<!DOCTYPE nmaprun>".toList =
        [] ++ '<' :: '!' :: (doctypeMark ++ " nmaprun".toList ++ ['>']) ++ [] := by decide
    rw [spelled]
    exact .doctype (by decide) (by decide) (by decide) prologue_nil
  have comment : Aside "<!-- <host> -->".toList := by
    have spelled : "<!-- <host> -->".toList =
        '<' :: '!' :: '-' :: '-' :: (" <host> ".toList ++ ['-','-','>']) := by decide
    rw [spelled]
    exact .comment (by decide +kernel)
  have lineBreak : Run "\n".toList := ⟨by decide,_,.plain (by decide) .nil⟩
  have writable : Writable [("host",some ['>'])] := ⟨⟨by decide,by decide,by decide⟩,by decide⟩
  have port : Contents (portText sshEntry) [portNode sshEntry] := by
    simpa using contents_flatMap writes_portText [sshEntry]
  have named : IsName "task".toList := by decide
  have foreign := writes_tagText named writable port
  have hosts := contents_flatMap writes_hostText [none,some [dnsEntry]]
  have contents := writes_hostText (some [sshEntry]) _ _ (.aside lineBreak comment (foreign _ _ hosts))
  have root : IsName "nmaprun".toList := by decide
  refine reports_of_contents doctype root writable_nil contents ?_ _
  have later := items_map isHost_hostNode [none,some [dnsEntry]]
  exact items_map_append isHost_hostNode [some [sshEntry]] (.gap (by decide) (.other (by decide) later))

/-- The ports of two hosts are found past what stands between; and with a number that is too large there are none. -/
theorem ports_read_back_mixed : Reports mixedReport [some [sshEntry],none,some [dnsEntry]] ∧
    readReport (String.ofList mixedReport) =
      some [⟨22,"tcp","open",some ⟨"s&h","","Open\"SSH\"",""⟩⟩,⟨65535,"udp","open|filtered",none⟩] ∧
    readReport (String.ofList (reportText [some [sshEntry,{ dnsEntry with number := some 65536 }]])) = none := by
  have reports := reports_mixedReport
  refine ⟨reports,?_,?_⟩
  · refine ((ports_read_back.1 _ _ reports).1 _).mpr (.cons ?_ (.cons ?_ .nil))
    · exact ⟨rfl,rfl,rfl,.some ⟨rfl,rfl,rfl,rfl⟩⟩
    · exact ⟨rfl,rfl,rfl,.none⟩
  · refine (ports_read_back.1 _ _ (reports_reportText _)).2.mpr ⟨_,List.mem_cons_of_mem _ List.mem_cons_self,?_⟩
    exact .outside rfl (.inr (by decide))

end Mixed

end Recon.Nmap
