import DirectShare.Bytes
import DirectShare.Text.WordClass
import DirectShare.Text.Hidden
import DirectShare.Text.Utf8
import DirectShare.Text.Quoted
import DirectShare.Text.Base64
import DirectShare.Decimal.Binary64
import DirectShare.Decimal.Shortest
import DirectShare.Json.Basic
import DirectShare.Json.Literal
import DirectShare.Json.Token
import DirectShare.Json.Tree
import DirectShare.Json.Parser
import DirectShare.Json.Record
import DirectShare.Text.Inspect
import DirectShare.Json.Inspect
import DirectShare.Wire.Action
import DirectShare.Wire.Frame
import DirectShare.Wire.Error
import DirectShare.Wire.Decode
import DirectShare.Wire.Capability
import DirectShare.Wire.DeviceInfo
import DirectShare.Wire.NetworkInfo
import DirectShare.Wire.VersionOffer
import DirectShare.Wire.SendRequest
import DirectShare.Wire.StatusReport
import DirectShare.Role
import DirectShare.Brand
import DirectShare.Radio.Uuid
import DirectShare.Radio.Service
import DirectShare.Task.Basic
import DirectShare.Task.Table
import DirectShare.Crypto.Error
import DirectShare.Crypto.Provider
import DirectShare.Crypto.Context
import DirectShare.Crypto.Sha256
import DirectShare.Crypto.Block
import DirectShare.Crypto.Aes256
import DirectShare.Crypto.Gcm
import DirectShare.Text.Blank
import DirectShare.Crypto.P256
import DirectShare.Crypto.Standard
import DirectShare.Crypto.Credential
import DirectShare.Settings.Basic
import DirectShare.Task.Announcement
import DirectShare.Session.Failure
import DirectShare.Session.Channel
import DirectShare.Session.Surroundings
import DirectShare.Session.Sender
import DirectShare.Session.Receiver
import DirectShare.Toml.Basic
import DirectShare.Toml.Text
import DirectShare.Toml.Number
import DirectShare.Toml.Entry
import DirectShare.Toml.Document
import DirectShare.Settings.Toml
import DirectShare.FileError
import DirectShare.Archive.Checksum
import DirectShare.Archive.Field
import DirectShare.Archive.Record
import DirectShare.Text.CodePage
import DirectShare.FileName
import DirectShare.Archive.Name
import DirectShare.Archive.Deflate.Unpacker
import DirectShare.Archive.Deflate.PrefixCode
import DirectShare.Archive.Deflate.Inflate
import DirectShare.Archive.Build
import DirectShare.Archive.Place
import DirectShare.Archive.Listing
import DirectShare.Archive.Entry
import DirectShare.Folder
import DirectShare.Archive.Extract
import DirectShare.Loopback.Radio
import DirectShare.Loopback.Network
import DirectShare.Text.CaseFold
import DirectShare.Task.MediaType.Application
import DirectShare.Task.MediaType.Audiovisual
import DirectShare.Task.MediaType.Textual
import DirectShare.Task.MediaType.Vendor
import DirectShare.Task.MediaType
import DirectShare.Task.Description
import DirectShare.Proofs.Json.Scanning
import DirectShare.Proofs.Json.Reading
import DirectShare.Proofs.Json.Fields
import DirectShare.Proofs.Json.Canonical
import DirectShare.Proofs.Text.Base64
import DirectShare.Proofs.Wire.Bodies
import DirectShare.Proofs.Wire.Frames
import DirectShare.Proofs.Wire.Grammar
import DirectShare.Proofs.Wire.RoundTrip
import DirectShare.Proofs.Crypto.Sealing
import DirectShare.Proofs.Crypto.Nonces
import DirectShare.Proofs.Crypto.Openings
import DirectShare.Proofs.Session.Channel
import DirectShare.Proofs.Session.Duplex
import DirectShare.Proofs.Session.FailedCalls
import DirectShare.Proofs.Session.Sender
import DirectShare.Proofs.Session.Receiver
import DirectShare.Proofs.Session.Lifecycle
import DirectShare.Proofs.Session.Delivery
import DirectShare.Proofs.Session.Handshake
import DirectShare.Proofs.Session.Announcements
import DirectShare.Proofs.Session.Reports
import DirectShare.Proofs.Task.Table
import DirectShare.Proofs.Task.Lifecycle
import DirectShare.Proofs.Task.Sweeping
import DirectShare.Proofs.Crypto.Credentials
import DirectShare.Proofs.Crypto.SealedTexts
import DirectShare.Proofs.Session.Exchange
import DirectShare.Proofs.Session.Net
import DirectShare.Proofs.Session.Agreement
import DirectShare.Proofs.Session.Invitation
import DirectShare.Proofs.Session.Transfer
import DirectShare.Proofs.Session.Registration
import DirectShare.Proofs.Session.Shipment
import DirectShare.Proofs.Session.Secrecy
import DirectShare.Proofs.Session.Meeting
import DirectShare.Proofs.Session.Completion
import DirectShare.Proofs.Session.Script
import DirectShare.Proofs.Session.SenderScript
import DirectShare.Proofs.Session.ReceiverScript
import DirectShare.Proofs.Folder
import DirectShare.Proofs.Archive.Places
import DirectShare.Proofs.Archive.Listed
import DirectShare.Proofs.Archive.Reading
import DirectShare.Proofs.Archive.Unpacking
import DirectShare.Proofs.Archive.Containment
import DirectShare.Proofs.Session.KeyAgreement
import DirectShare.Proofs.Session.KeyMaterial
import DirectShare.Proofs.Session.Confirmation
import DirectShare.Proofs.Task.Outline
import DirectShare.Proofs.Session.Concealment
import DirectShare.Proofs.Session.Correlation
import DirectShare.Proofs.Session.Ownership
import DirectShare.Proofs.Session.VersionChoice
import DirectShare.Proofs.Session.Payloads
import DirectShare.Proofs.Session.Verdict
import DirectShare.Proofs.Task.Announcement
import DirectShare.Proofs.Session.Beginning
