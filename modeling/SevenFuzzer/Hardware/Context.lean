import Mathlib.Data.Fin.VecNotation
import SevenFuzzer.Hardware.Win32

/-! # Register state and thread context

The adapters between `RegState` and the thread context, and the reading of an
exception record as a stop.
-/

namespace SevenFuzzer

/-- `apply_context_to_gpr`: the general registers, the instruction pointer and the flags. -/
def applyContextToGpr (ctx : Context) (r : RegState) : Context :=
  { ctx with
    rax := r.gpr 0, rcx := r.gpr 1, rdx := r.gpr 2, rbx := r.gpr 3
    rsp := r.gpr 4, rbp := r.gpr 5, rsi := r.gpr 6, rdi := r.gpr 7
    r8 := r.gpr 8, r9 := r.gpr 9, r10 := r.gpr 10, r11 := r.gpr 11
    r12 := r.gpr 12, r13 := r.gpr 13, r14 := r.gpr 14, r15 := r.gpr 15 }

/-- `apply_context_to_xmm`: the vector registers, in the FXSAVE area. -/
def applyContextToXmm (ctx : Context) (r : RegState) : Context :=
  { ctx with fltSave.xmmRegisters := fun i => ⟨r.xmmLo i, r.xmmHi i⟩ }

/-- The abridged tag: the bit of a physical register is set unless its full tag
says empty. -/
def abridgedTag (tagWord : BitVec 16) : BitVec 8 :=
  (List.range 8).foldl (fun abridged phys =>
    if (tagWord >>> (2 * phys)) &&& 0x3#16 ≠ 0x3#16 then abridged ||| (1#8 <<< phys)
    else abridged) 0#8

/-- `apply_context_to_x87`: the x87 state, with the tag word abridged to a bit for each register. -/
def applyContextToX87 (ctx : Context) (r : RegState) : Context :=
  { ctx with
    fltSave.controlWord := r.x87.controlWord
    fltSave.statusWord := r.x87.statusWord
    fltSave.tagWord := abridgedTag r.x87.tagWord
    fltSave.floatRegisters := fun i =>
      ((r.x87.signexp i).setWidth 128 <<< 64) ||| (r.x87.signif i).setWidth 128 }

/-- The full tag word of an abridged one: the registers are relative to the top,
the tags are in physical order. -/
def fullTag (tagWord : BitVec 8) (statusWord : BitVec 16) (signexp : Fin 8 → BitVec 16)
    (signif : Fin 8 → BitVec 64) : BitVec 16 :=
  let top := ((statusWord >>> 11) &&& 0x7#16).toNat
  (List.range 8).foldl (fun full phys =>
    let st := Fin.ofNat 8 (phys + 8 - top)
    let tag := if (tagWord >>> phys) &&& 1#8 ≠ 0#8 then x87ClassifyTag (signexp st) (signif st)
      else 0x3#8
    full ||| (tag.setWidth 16 <<< (2 * phys))) 0#16

/-- `read_x87_from_context`: the x87 state, with the full tags computed anew from the values. -/
def readX87FromContext (ctx : Context) (r : RegState) : RegState :=
  let signif := fun i => (ctx.fltSave.floatRegisters i).extractLsb' 0 64
  let signexp := fun i => (ctx.fltSave.floatRegisters i).extractLsb' 64 16
  { r with
    x87 :=
      { controlWord := ctx.fltSave.controlWord
        statusWord := ctx.fltSave.statusWord
        signif := signif
        signexp := signexp
        tagWord := fullTag ctx.fltSave.tagWord ctx.fltSave.statusWord signexp signif } }

/-- `read_xmm_from_context`: the vector registers. -/
def readXmmFromContext (ctx : Context) (r : RegState) : RegState :=
  { r with
    xmmLo := fun i => (ctx.fltSave.xmmRegisters i).low
    xmmHi := fun i => (ctx.fltSave.xmmRegisters i).high }

/-- `read_gpr_from_context`: the general registers, the instruction pointer and the flags. -/
def readGprFromContext (ctx : Context) (r : RegState) : RegState :=
  { r with
    gpr := ![ctx.rax, ctx.rcx, ctx.rdx, ctx.rbx, ctx.rsp, ctx.rbp, ctx.rsi, ctx.rdi,
      ctx.r8, ctx.r9, ctx.r10, ctx.r11, ctx.r12, ctx.r13, ctx.r14, ctx.r15]
    rip := ctx.rip
    rflags := ctx.eFlags.setWidth 64 }

/-- A page fault, or a general-protection fault without an address. -/
def EXCEPTION_ACCESS_VIOLATION : BitVec 32 := 0xC0000005#32
/-- `INT3`. -/
def EXCEPTION_BREAKPOINT : BitVec 32 := 0x80000003#32
/-- The trap flag's exception, with which every test case that retires ends. -/
def EXCEPTION_SINGLE_STEP : BitVec 32 := 0x80000004#32
/-- `BOUND`. -/
def EXCEPTION_ARRAY_BOUNDS_EXCEEDED : BitVec 32 := 0xC000008C#32
/-- A page that could not be read in. -/
def EXCEPTION_IN_PAGE_ERROR : BitVec 32 := 0xC0000006#32
/-- An invalid opcode. -/
def EXCEPTION_ILLEGAL_INSTRUCTION : BitVec 32 := 0xC000001D#32
/-- A privileged instruction in ring 3. -/
def EXCEPTION_PRIV_INSTRUCTION : BitVec 32 := 0xC0000096#32
/-- A divide error. -/
def EXCEPTION_INT_DIVIDE_BY_ZERO : BitVec 32 := 0xC0000094#32
/-- A quotient that does not fit. -/
def EXCEPTION_INT_OVERFLOW : BitVec 32 := 0xC0000095#32

/-- The stop an exception stands for. An access violation without a fault address
(all ones in its place) is a general protection fault. -/
def mapException (rec : ExceptionRecord) : Stop :=
  if rec.exceptionCode = EXCEPTION_SINGLE_STEP then .ok
  else if rec.exceptionCode = EXCEPTION_ACCESS_VIOLATION then
    if 2#32 ≤ rec.numberParameters ∧ rec.exceptionInformation 1 = -1#64 then .gp else .pf
  else if rec.exceptionCode = EXCEPTION_ARRAY_BOUNDS_EXCEEDED ∨
      rec.exceptionCode = EXCEPTION_IN_PAGE_ERROR then .pf
  else if rec.exceptionCode = EXCEPTION_ILLEGAL_INSTRUCTION then .ud
  else if rec.exceptionCode = EXCEPTION_PRIV_INSTRUCTION then .gp
  else if rec.exceptionCode = EXCEPTION_INT_DIVIDE_BY_ZERO ∨
      rec.exceptionCode = EXCEPTION_INT_OVERFLOW then .de
  else if rec.exceptionCode = EXCEPTION_BREAKPOINT then .bp
  else .other

/-- The detail text of an outcome. -/
def exceptionDetail (rec : ExceptionRecord) : String :=
  let rip := "(rip=0x" ++ hexPad 16 rec.exceptionAddress.toNat ++ ")"
  if rec.exceptionCode = EXCEPTION_ACCESS_VIOLATION ∧ mapException rec = .gp then
    "gp (access violation, no real fault address) " ++ rip
  else if rec.exceptionCode = EXCEPTION_ACCESS_VIOLATION ∧ 2#32 ≤ rec.numberParameters then
    let access := if rec.exceptionInformation 0 = 8#64 then "exec"
      else if rec.exceptionInformation 0 = 1#64 then "write" else "read"
    "av " ++ access ++ " at 0x" ++ hexPad 16 (rec.exceptionInformation 1).toNat ++ " " ++ rip
  else if mapException rec = .other then
    "hardware exception 0x" ++ hexPad 8 rec.exceptionCode.toNat
  else ""

end SevenFuzzer
