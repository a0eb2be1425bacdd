import HttpMediation.Config.Reader
import HttpMediation.Diagnostic.Records
import HttpMediation.Mediator
import HttpMediation.Proofs.Admission
import HttpMediation.Proofs.Ascii
import HttpMediation.Proofs.Base64Url
import HttpMediation.Proofs.Building
import HttpMediation.Proofs.ByteOrder
import HttpMediation.Proofs.Change
import HttpMediation.Proofs.Containment
import HttpMediation.Proofs.CookieFields
import HttpMediation.Proofs.CookieFlags
import HttpMediation.Proofs.Decoding
import HttpMediation.Proofs.Destination
import HttpMediation.Proofs.Dict
import HttpMediation.Proofs.Disk
import HttpMediation.Proofs.DotSegments
import HttpMediation.Proofs.Embedding
import HttpMediation.Proofs.Emission
import HttpMediation.Proofs.Expiry
import HttpMediation.Proofs.FailingStore
import HttpMediation.Proofs.Field
import HttpMediation.Proofs.FileName
import HttpMediation.Proofs.Fixation
import HttpMediation.Proofs.Form
import HttpMediation.Proofs.HeaderValues
import HttpMediation.Proofs.Interference
import HttpMediation.Proofs.Locking
import HttpMediation.Proofs.LogLine
import HttpMediation.Proofs.Masking
import HttpMediation.Proofs.Namespace
import HttpMediation.Proofs.NormalLocation
import HttpMediation.Proofs.NormalPath
import HttpMediation.Proofs.ParsedUrl
import HttpMediation.Proofs.Percent
import HttpMediation.Proofs.Placement
import HttpMediation.Proofs.Purpose
import HttpMediation.Proofs.Race
import HttpMediation.Proofs.Redirect
import HttpMediation.Proofs.Residue
import HttpMediation.Proofs.SealedQuery
import HttpMediation.Proofs.Sealing
import HttpMediation.Proofs.SentPath
import HttpMediation.Proofs.SentText
import HttpMediation.Proofs.SetCookie
import HttpMediation.Proofs.SizeCeiling
import HttpMediation.Proofs.Staging
import HttpMediation.Proofs.State
import HttpMediation.Proofs.StateCookie
import HttpMediation.Proofs.StoredName
import HttpMediation.Proofs.Storing
import HttpMediation.Proofs.Token
import HttpMediation.Proofs.Upload
import HttpMediation.Proofs.Utf8
import HttpMediation.Proofs.Validation
import HttpMediation.Proofs.Visible
import HttpMediation.Session.FaultyStore
import HttpMediation.Session.LockTable
