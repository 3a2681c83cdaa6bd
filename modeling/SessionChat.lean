import SessionChat.Admission.Reservations
import SessionChat.Admission.SingleJoin
import SessionChat.Invitation.SingleUse
import SessionChat.InviterTransaction.Retirement
import SessionChat.InviterTransaction.StoreSafety
import SessionChat.Ipc.Frame
import SessionChat.Iroh.Poll
import SessionChat.Mailbox.Paging
import SessionChat.Mailbox.PersistFirst
import SessionChat.Mailbox.RotationRetry
import SessionChat.MemoryTransport.Deposits
import SessionChat.MemoryTransport.Reading
import SessionChat.Mls.FailClosed
import SessionChat.Mls.Release
import SessionChat.Storage.JoinerAtomicity
import SessionChat.Storage.Leases
import SessionChat.Storage.Recovery
import SessionChat.Transport.EndToEnd
import SessionChat.Vault.IdleDeadline
import SessionChat.Vault.Instances
import SessionChat.Vault.Passphrase
import SessionChat.Vault.UnlockSafety
