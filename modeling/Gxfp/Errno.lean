/-!
# Error numbers

The kernel driver and the userspace library report failures as negated error
numbers.  Kernel functions of the model return the error itself; library
functions, which also pass through codes of the TLS library, return the
integer.
-/

namespace Gxfp

/-- The error numbers the driver and the library name. -/
inductive Errno
  | ENOENT
  | EINTR
  | EIO
  | EAGAIN
  | ENOMEM
  | EFAULT
  | EBUSY
  | ENODEV
  | EINVAL
  | ENOSPC
  | EPIPE
  | ENODATA
  | EBADMSG
  | EOVERFLOW
  | EMSGSIZE
  | ETIMEDOUT
  | EALREADY
  | ECANCELED
  deriving DecidableEq, Repr

namespace Errno

/-- The number behind an error name. -/
def code : Errno → Nat
  | ENOENT => 2
  | EINTR => 4
  | EIO => 5
  | EAGAIN => 11
  | ENOMEM => 12
  | EFAULT => 14
  | EBUSY => 16
  | ENODEV => 19
  | EINVAL => 22
  | ENOSPC => 28
  | EPIPE => 32
  | ENODATA => 61
  | EBADMSG => 74
  | EOVERFLOW => 75
  | EMSGSIZE => 90
  | ETIMEDOUT => 110
  | EALREADY => 114
  | ECANCELED => 125

/-- The return value `-errno`. -/
def rc (error : Errno) : Int :=
  -(error.code : Int)

theorem rc_neg (error : Errno) : error.rc < 0 := by
  cases error <;> decide

theorem code_injective : Function.Injective code := by
  intro first second same
  cases first <;> cases second <;> first | rfl | cases same

theorem rc_injective {first second : Errno} (same : first.rc = second.rc) : first = second :=
  code_injective (Int.ofNat_inj.mp (Int.neg_inj.mp same))

end Errno

end Gxfp
