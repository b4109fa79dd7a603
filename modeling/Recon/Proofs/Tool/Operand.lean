import Recon.Proofs.Tool.Host
import Recon.Tool.Nmap

/-! The target among the arguments of a port scan. It comes last, on its own; nothing keeps it from beginning with a
hyphen, where the program takes it for an option. -/
namespace Recon.Nmap

open Text Target

/-- Whatever the target, the arguments before it are the same. -/
theorem exists_args_eq_concat (c : ScanConfig) :
    ∃ front, ∀ target, (Settings.ofConfig target c).args = front ++ [target] := by
  refine ⟨(Settings.ofConfig "" c).args.dropLast,fun target => ?_⟩
  rw [Settings.args,Settings.args,List.dropLast_concat]
  rfl

lemma host_ne_empty_of_check {c : ScanConfig} (accepted : check c = .ok ()) : host c.target ≠ "" := by
  unfold check at accepted
  split at accepted
  · cases accepted
  · split at accepted
    · cases accepted
    · assumption

/-- The host begins with a hyphen just if one stands at the front of the target or right after its scheme. -/
theorem hyphen_first_iff (target : String) : (host target).toList.head? = some '-' ↔
    ∃ scheme ∈ [] :: schemes, scheme ++ ['-'] <+: spelling target := by
  rw [head?_host_iff (by decide),head?_dropScheme_iff,List.exists_mem_cons_iff,List.nil_append,
    List.singleton_prefix_iff_head?_eq_some,or_comm]
  refine or_congr_left (and_iff_right_of_imp fun lead scheme listed begins => ?_)
  -- no scheme begins with a hyphen
  have letter : ∀ scheme ∈ schemes, scheme.head? = some 'h' := by decide
  obtain ⟨rest,whole⟩ := begins
  rw [← whole,List.head?_append,letter scheme listed] at lead
  cases lead

/-- An accepted target comes to one argument, the last one of all, which is not empty. It begins with a hyphen just if
the target does so itself or after its scheme. -/
theorem target_comes_last (program : String) {c : ScanConfig} (accepted : check c = .ok ()) :
    host c.target ≠ "" ∧
    (∃ front, ∀ target, (Settings.ofConfig target c).args = front ++ [target]) ∧
    (∀ call limit next, scan program c = .launch call limit next → call.args.getLast? = some (host c.target)) ∧
    ((host c.target).toList.head? = some '-' ↔ ∃ scheme ∈ [] :: schemes, scheme ++ ['-'] <+: spelling c.target) := by
  refine ⟨host_ne_empty_of_check accepted,exists_args_eq_concat c,fun call limit next started => ?_,
    hyphen_first_iff c.target⟩
  obtain ⟨front,args⟩ := exists_args_eq_concat c
  rw [Tool.command_of_executeThen started,args,List.getLast?_concat]

/-- An option after a scheme is accepted, and a program is started with it as the last argument. -/
theorem target_comes_last_hidden : check (ScanConfig.create 1 " HTTP://-sN/ ") = .ok () ∧
    (∃ call limit next, scan "nmap" (ScanConfig.create 1 " HTTP://-sN/ ") = .launch call limit next ∧
      call.args.getLast? = some "-sn") ∧ (host " HTTP://-sN/ ").toList.head? = some '-' := by
  have accepted : check (ScanConfig.create 1 " HTTP://-sN/ ") = .ok () := rfl
  obtain ⟨-,-,last,hyphen⟩ := target_comes_last "nmap" accepted
  exact ⟨accepted,⟨_,_,_,rfl,last _ _ _ rfl⟩,hyphen.mpr ⟨_,List.mem_cons_of_mem _ List.mem_cons_self,_,rfl⟩⟩

/-- The check accepts a target that is an option, and it is passed on as such. -/
theorem option_accepted : check (ScanConfig.create 1 "-sn") = .ok () ∧
    (Settings.ofConfig (host "-sn") (ScanConfig.create 1 "-sn")).args.getLast? = some "-sn" ∧
    "-sn".toList.head? = some '-' := by
  exact ⟨rfl,rfl,rfl⟩

end Recon.Nmap
