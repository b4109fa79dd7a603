import Recon.Proofs.Tool.ReportTree

/-! Entries for ports in a report. Among whatever else a report has, the entries of all hosts are read in order; one
that gives no port makes the whole unreadable. -/
namespace Recon.Nmap

open Xml

/-- What a report says of a service; any of it may be missing. -/
structure ServiceEntry where
  name : Option String
  product : Option String
  version : Option String
  extra : Option String

/-- What a report says of a port; any of it may be missing, and so may the state within its element. -/
structure PortEntry where
  protocol : Option String
  number : Option Int
  state : Option (Option String)
  service : Option ServiceEntry

/-- A whole number as it is written, with zeros in front or not. -/
inductive Numeral : List Char → Int → Prop
  | whole {digits : List Char} (filled : digits ≠ []) (digital : ∀ d ∈ digits, d.isDigit = true) :
      Numeral digits (Text.digitsFrom 10 0 digits)
  | below {digits : List Char} (digital : ∀ d ∈ digits, d.isDigit = true) (positive : Text.digitsFrom 10 0 digits ≠ 0) :
      Numeral ('-' :: digits) (-Text.digitsFrom 10 0 digits)

/-- The element of a state. -/
inductive IsState : List Char → List Node → Option String → Prop
  | mk {raw : List Char} {children : List Node} {as : List (List Char × List Char)} {state : Option String}
      (attributes : Attributes raw as) (tells : Tells Spells "state" as state) : IsState raw children state

/-- The element of a service. -/
inductive IsService : List Char → List Node → ServiceEntry → Prop
  | mk {raw : List Char} {children : List Node} {as : List (List Char × List Char)} {s : ServiceEntry}
      (attributes : Attributes raw as) (name : Tells Spells "name" as s.name)
      (product : Tells Spells "product" as s.product) (version : Tells Spells "version" as s.version)
      (extra : Tells Spells "extrainfo" as s.extra) : IsService raw children s

/-- The element of a port, in which the state and the service are elements. -/
inductive IsPort : List Char → List Node → PortEntry → Prop
  | mk {raw : List Char} {children : List Node} {as : List (List Char × List Char)} {e : PortEntry}
      (attributes : Attributes raw as) (protocol : Tells Spells "protocol" as e.protocol)
      (number : Tells Numeral "portid" as e.number) (state : Items IsState "state" children e.state.toList)
      (service : Items IsService "service" children e.service.toList) : IsPort raw children e

/-- The element that has a list of ports. -/
inductive IsPorts : List Char → List Node → List PortEntry → Prop
  | mk {raw : List Char} {children : List Node} {as : List (List Char × List Char)} {es : List PortEntry}
      (attributes : Attributes raw as) (ports : Items IsPort "port" children es) : IsPorts raw children es

/-- A host with its ports, or without a list of them. -/
inductive IsHost : List Char → List Node → Option (List PortEntry) → Prop
  | mk {raw : List Char} {children : List Node} {as : List (List Char × List Char)} {ports : Option (List PortEntry)}
      (attributes : Attributes raw as) (lists : Items IsPorts "ports" children ports.toList) : IsHost raw children ports

/-- A text that reports hosts. Comments, instructions, blanks, other elements and other attributes stand anywhere. -/
inductive Reports : List Char → List (Option (List PortEntry)) → Prop
  | mk {cs name raw : List Char} {children : List Node} {as : List (List Char × List Char)}
      {hosts : List (Option (List PortEntry))} (document : Xml.Document cs (.element name raw children))
      (attributes : Attributes raw as) (items : Items IsHost "host" children hosts) : Reports cs hosts

/-- The ports of all hosts in their order. -/
def entries (hosts : List (Option (List PortEntry))) : List PortEntry := (hosts.map (·.getD [])).flatten

/-- The service that an entry gives: what is missing is empty, but not the name. -/
structure ServiceEntry.Gives (e : ServiceEntry) (s : Service) : Prop where
  name : e.name = some s.name
  version : s.version = e.version.getD ""
  fingerprint : s.fingerprint = e.product.getD ""
  banner : s.banner = e.extra.getD ""

/-- The port that an entry gives. -/
structure PortEntry.Gives (e : PortEntry) (p : Port) : Prop where
  protocol : e.protocol = some p.protocol
  number : e.number = some (p.port.toNat : Int)
  state : e.state = some (some p.state)
  service : Option.Rel ServiceEntry.Gives e.service p.service

/-- What makes an entry no port. -/
inductive PortEntry.Faulty (e : PortEntry) : Prop
  | protocolless (missing : e.protocol = none)
  | numberless (missing : e.number = none)
  | outside {n : Int} (numbered : e.number = some n) (beyond : n < 0 ∨ 65536 ≤ n)
  | stateless (missing : e.state = none ∨ e.state = some none)
  | nameless {s : ServiceEntry} (served : e.service = some s) (missing : s.name = none)

section Entries

def ServiceEntry.service? (e : ServiceEntry) : Option Service :=
  e.name.map fun name =>
    { name := name, version := e.version.getD "", fingerprint := e.product.getD "", banner := e.extra.getD "" }

/-- The number of a port, when it is one. -/
def portNumber? (n : Int) : Option Nat := if 0 ≤ n ∧ n < UInt16.size then some n.toNat else none

def serviceOf? : Option ServiceEntry → Option (Option Service)
  | none => some none
  | some e => e.service?.map some

def PortEntry.port? (e : PortEntry) : Option Port := do
  let protocol ← e.protocol
  let number ← e.number.bind portNumber?
  let state ← e.state.join
  let service ← serviceOf? e.service
  some { port := UInt16.ofNat number, protocol := protocol, state := state, service := service }

lemma ServiceEntry.service?_eq_some_iff {e : ServiceEntry} {s : Service} : e.service? = some s ↔ e.Gives s := by
  rw [ServiceEntry.service?,Option.map_eq_some_iff]
  constructor
  · rintro ⟨name,named,rfl⟩
    exact ⟨named,rfl,rfl,rfl⟩
  · rintro ⟨named,version,fingerprint,banner⟩
    exact ⟨s.name,named,by rw [← version,← fingerprint,← banner]⟩

lemma serviceOf?_eq_some_iff {e : Option ServiceEntry} {s : Option Service} :
    serviceOf? e = some s ↔ Option.Rel ServiceEntry.Gives e s := by
  cases e with
  | none =>
    constructor
    · rintro ⟨⟩
      exact .none
    · rintro ⟨⟩
      rfl
  | some e =>
    rw [serviceOf?,Option.map_eq_some_iff]
    constructor
    · rintro ⟨t,served,rfl⟩
      exact .some (ServiceEntry.service?_eq_some_iff.mp served)
    · rintro ⟨gives⟩
      exact ⟨_,ServiceEntry.service?_eq_some_iff.mpr gives,rfl⟩

lemma portNumber?_natCast (n : Nat) : portNumber? n = if n < UInt16.size then some n else none := by
  rw [portNumber?]
  by_cases inside : n < UInt16.size
  · rw [if_pos inside,if_pos ⟨by omega,by omega⟩,Int.toNat_natCast]
  · rw [if_neg inside,if_neg (by omega)]

lemma portNumber?_eq_some_iff {n : Int} {m : Nat} : portNumber? n = some m ↔ n = m ∧ m < UInt16.size := by
  rw [portNumber?,Option.ite_none_right_eq_some,Option.some.injEq]
  omega

lemma PortEntry.port?_eq_some_iff {e : PortEntry} {p : Port} : e.port? = some p ↔ e.Gives p := by
  simp only [PortEntry.port?,Option.bind_eq_bind,Option.bind_eq_some_iff,Option.some.injEq]
  constructor
  · rintro ⟨protocol,named,number,⟨n,numbered,inside⟩,state,stated,service,served,rfl⟩
    obtain ⟨rfl,bound⟩ := portNumber?_eq_some_iff.mp inside
    refine ⟨named,?_,Option.join_eq_some_iff.mp stated,serviceOf?_eq_some_iff.mp served⟩
    rw [numbered,UInt16.toNat_ofNat_of_lt' bound]
  · rintro ⟨named,numbered,stated,served⟩
    refine ⟨_,named,p.port.toNat,⟨_,numbered,?_⟩,_,Option.join_eq_some_iff.mpr stated,_,
      serviceOf?_eq_some_iff.mpr served,?_⟩
    · exact portNumber?_eq_some_iff.mpr ⟨rfl,p.port.toNat_lt⟩
    · rw [UInt16.ofNat_toNat]

lemma PortEntry.Gives.not_faulty {e : PortEntry} {p : Port} (h : e.Gives p) : ¬ e.Faulty := by
  obtain ⟨named,numbered,stated,served⟩ := h
  rintro (missing | missing | ⟨told,beyond⟩ | missing | ⟨told,missing⟩)
  · exact Option.some_ne_none _ (named.symm.trans missing)
  · exact Option.some_ne_none _ (numbered.symm.trans missing)
  · obtain rfl := Option.some.inj (numbered.symm.trans told)
    have := p.port.toNat_lt
    omega
  · rw [stated] at missing
    simp at missing
  · rw [told] at served
    generalize p.service = service at served
    obtain ⟨gives⟩ := served
    exact Option.some_ne_none _ (gives.name.symm.trans missing)

lemma ServiceEntry.exists_gives {e : Option ServiceEntry} (named : ∀ s, e = some s → s.name ≠ none) :
    ∃ s, Option.Rel ServiceEntry.Gives e s := by
  cases e with
  | none => exact ⟨none,.none⟩
  | some e =>
    obtain ⟨name,told⟩ := Option.ne_none_iff_exists'.mp (named e rfl)
    exact ⟨some ⟨name,e.version.getD "",e.product.getD "",e.extra.getD ""⟩,.some ⟨told,rfl,rfl,rfl⟩⟩

/-- An entry without a fault is a port. -/
theorem PortEntry.exists_gives {e : PortEntry} (sound : ¬ e.Faulty) : ∃ p, e.Gives p := by
  obtain ⟨protocol,named⟩ := Option.ne_none_iff_exists'.mp fun missing => sound (.protocolless missing)
  obtain ⟨n,numbered⟩ := Option.ne_none_iff_exists'.mp fun missing => sound (.numberless missing)
  obtain ⟨service,served⟩ := ServiceEntry.exists_gives fun s told missing => sound (.nameless told missing)
  have inside : 0 ≤ n ∧ n < 65536 := by
    have := mt (PortEntry.Faulty.outside numbered) sound
    omega
  obtain ⟨state,stated⟩ : ∃ state, e.state = some (some state) := by
    cases told : e.state with
    | none => exact absurd (.stateless (.inl told)) sound
    | some o =>
      cases o with
      | none => exact absurd (.stateless (.inr told)) sound
      | some state => exact ⟨state,rfl⟩
  have bound : n.toNat < UInt16.size := by
    rw [show UInt16.size = 65536 from rfl]
    omega
  refine ⟨⟨UInt16.ofNat n.toNat,protocol,state,service⟩,named,?_,stated,served⟩
  rw [numbered,UInt16.toNat_ofNat_of_lt' bound,Int.toNat_of_nonneg inside.1]

lemma PortEntry.port?_eq_none_iff {e : PortEntry} : e.port? = none ↔ e.Faulty := by
  constructor
  · intro nothing
    by_contra sound
    obtain ⟨p,gives⟩ := PortEntry.exists_gives sound
    exact Option.some_ne_none p ((PortEntry.port?_eq_some_iff.mpr gives).symm.trans nothing)
  · intro faulty
    refine Option.eq_none_iff_forall_ne_some.mpr fun p found => ?_
    exact (PortEntry.port?_eq_some_iff.mp found).not_faulty faulty

end Entries

section Reading

variable {raw : List Char} {children : List Node}

lemma Numeral.readSignedBelow? {n : Int} (h : Numeral raw n) :
    Text.readSignedBelow? UInt16.size raw = portNumber? n := by
  cases h with
  | @whole digits filled digital =>
    obtain ⟨d,ds,rfl⟩ := List.exists_cons_of_ne_nil filled
    have unsigned : d ≠ '+' := by
      rintro rfl
      exact absurd (digital _ List.mem_cons_self) (by decide)
    rw [Text.readSignedBelow?,Text.readBelow?,Text.readNat?_digits filled digital,portNumber?_natCast]
    · simp [Option.filter]
    · rintro ds' same
      exact unsigned (List.cons.inj same).1
  | @below digits digital positive =>
    have negative : ¬ 0 ≤ (-Text.digitsFrom 10 0 digits : Int) := by omega
    rw [portNumber?,if_neg fun inside => negative inside.1]
    rfl

lemma IsState.state? {o : Option String} (h : IsState raw children o) (readable : areReadable children = true) :
    Nmap.state? raw children = o := by
  obtain ⟨attributes,tells⟩ := h
  simp only [Nmap.state?,attributes.attributes?,elements?_of_areReadable readable,Option.bind_eq_bind,Option.bind_some,
    tells.text? ⟨rfl,rfl⟩]

lemma IsService.service? {s : ServiceEntry} (h : IsService raw children s) (readable : areReadable children = true) :
    Nmap.service? raw children = s.service? := by
  obtain ⟨attributes,name,product,version,extra⟩ := h
  simp only [Nmap.service?,attributes.attributes?,elements?_of_areReadable readable,Option.bind_eq_bind,Option.bind_some,
    name.text? ⟨rfl,rfl⟩,product.textOrEmpty? ⟨rfl,rfl⟩,version.textOrEmpty? ⟨rfl,rfl⟩,extra.textOrEmpty? ⟨rfl,rfl⟩]
  rw [ServiceEntry.service?]
  cases s.name <;> rfl

lemma bind_eq_of_rel {α β γ : Type} {R : α → β → Prop} {x : Option α} {y : Option β} {f : α → Option γ}
    {g : β → Option γ} (related : Option.Rel R x y) (same : ∀ a b, R a b → f a = g b) : x.bind f = y.bind g := by
  cases related with
  | none => rfl
  | some h => exact same _ _ h

lemma mapM_eq_of_forall₂ {α β γ : Type} {R : α → β → Prop} {as : List α} {bs : List β} {f : α → Option γ}
    {g : β → Option γ} (related : List.Forall₂ R as bs) (same : ∀ a b, R a b → f a = g b) : as.mapM f = bs.mapM g := by
  induction related with
  | nil => rfl
  | cons h rest ih => rw [List.mapM_cons,List.mapM_cons,same _ _ h,ih]

lemma IsPort.port? {e : PortEntry} (h : IsPort raw children e) (readable : areReadable children = true) :
    Nmap.port? raw children = e.port? := by
  obtain ⟨attributes,protocol,number,state,service⟩ := h
  obtain ⟨stateFound,stateRead,states⟩ := state.single? ⟨rfl,rfl⟩ readable
  obtain ⟨serviceFound,serviceRead,services⟩ := service.single? ⟨rfl,rfl⟩ readable
  have numbered : (Nmap.required? "portid" _).bind (Text.readSignedBelow? UInt16.size) = e.number.bind portNumber? :=
    bind_eq_of_rel (number.required? ⟨rfl,rfl⟩) fun raw n h => h.readSignedBelow?
  simp only [Nmap.port?,attributes.attributes?,elements?_of_areReadable readable,Option.bind_eq_bind,Option.bind_some,
    protocol.text? ⟨rfl,rfl⟩,numbered,stateRead,serviceRead,PortEntry.port?]
  refine congrArg e.protocol.bind (funext fun protocol => congrArg (Option.bind _) (funext fun number => ?_))
  generalize e.state = o at states ⊢
  cases states with
  | none => rfl
  | @some found o item =>
    rw [Option.bind_some,item.1.state? item.2]
    refine congrArg o.bind (funext fun state => ?_)
    generalize e.service = s at services ⊢
    cases services with
    | none => rfl
    | some item => rw [serviceOf?,← item.1.service? item.2]

lemma IsPorts.ports? {es : List PortEntry} (h : IsPorts raw children es) (readable : areReadable children = true) :
    Nmap.ports? raw children = es.mapM PortEntry.port? := by
  obtain ⟨attributes,ports⟩ := h
  obtain ⟨found,read,items⟩ := ports.listed? ⟨rfl,rfl⟩ readable
  have read : Nmap.listed? ['p','o','r','t'] children = some found := read
  simp only [Nmap.ports?,attributes.attributes?,read,Option.bind_eq_bind,Option.bind_some]
  exact mapM_eq_of_forall₂ items fun e p item => item.1.port? item.2

lemma IsHost.hostPorts? {o : Option (List PortEntry)} (h : IsHost raw children o)
    (readable : areReadable children = true) : Nmap.hostPorts? raw children = (o.getD []).mapM PortEntry.port? := by
  obtain ⟨attributes,lists⟩ := h
  obtain ⟨found,read,rel⟩ := lists.single? ⟨rfl,rfl⟩ readable
  simp only [Nmap.hostPorts?,attributes.attributes?,elements?_of_areReadable readable,read,Option.bind_eq_bind,
    Option.bind_some]
  cases rel with
  | none => rfl
  | some item => exact item.1.ports? item.2

/-- Reading list after list and putting the results together is reading all at once. -/
theorem mapM_flatten {α β γ : Type} (f : β → Option γ) (g : α → List β) (as : List α) :
    (as.mapM fun a => (g a).mapM f).map List.flatten = ((as.map g).flatten).mapM f := by
  induction as with
  | nil => rfl
  | cons a as ih =>
    rw [List.mapM_cons,List.map_cons,List.flatten_cons,List.mapM_append,← ih]
    cases (g a).mapM f with
    | none => rfl
    | some bs => cases as.mapM fun a => (g a).mapM f <;> rfl

lemma Reports.readReport {cs : List Char} {hosts : List (Option (List PortEntry))} (h : Reports cs hosts) :
    Nmap.readReport (String.ofList cs) = (entries hosts).mapM PortEntry.port? := by
  obtain ⟨document,attributes,items⟩ := h
  obtain ⟨found,read,hosts⟩ := items.listed? ⟨rfl,rfl⟩ document.areReadable
  have read : Nmap.listed? ['h','o','s','t'] _ = some found := read
  rw [entries,← mapM_flatten,Nmap.readReport,String.toList_ofList,document.root?]
  simp only [attributes.attributes?,read,Option.bind_eq_bind,Option.bind_some]
  rw [mapM_eq_of_forall₂ hosts fun e host item => item.1.hostPorts? item.2]

lemma mapM_eq_some_iff {α β : Type} {f : α → Option β} {as : List α} {bs : List β} :
    as.mapM f = some bs ↔ List.Forall₂ (fun a b => f a = some b) as bs := by
  induction as generalizing bs with
  | nil => simp [eq_comm]
  | cons a as ih =>
    simp only [List.mapM_cons,Option.bind_eq_bind,Option.bind_eq_some_iff,List.forall₂_cons_left_iff,← ih]
    constructor
    · rintro ⟨b,first,bs,rest,⟨⟩⟩
      exact ⟨b,bs,first,rest,rfl⟩
    · rintro ⟨b,bs,first,rest,rfl⟩
      exact ⟨b,first,bs,rest,rfl⟩

lemma mapM_eq_none_iff {α β : Type} {f : α → Option β} {as : List α} : as.mapM f = none ↔ ∃ a ∈ as, f a = none := by
  induction as with
  | nil => simp
  | cons a as ih =>
    rw [List.exists_mem_cons_iff,← ih,List.mapM_cons]
    cases f a with
    | none => simp
    | some b => cases as.mapM f <;> simp

end Reading

end Recon.Nmap
