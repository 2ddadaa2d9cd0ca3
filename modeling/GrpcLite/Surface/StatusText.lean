import GrpcLite.Surface.Channel

/-!
# Status texts

The bytes that a symbolic text stands for. What the C library and nghttp2 say of an
error number is a parameter, and an error text is cut at the size of its buffer.
-/

namespace GrpcLite

/-- What the libraries say of an error number. -/
structure LibraryTexts where
  /-- `strerror`. -/
  strerror : Nat → Bytes
  /-- `nghttp2_strerror`. -/
  nghttp2Strerror : Int → Bytes
  /-- `strerror` has a text for every number. -/
  strerror_ne : ∀ errno, strerror errno ≠ []

variable (texts : LibraryTexts)

namespace ErrorDetail

/-- The size of `last_error_detail` and of `last_io_error_detail`. -/
def bufferSize : Nat := 256

/-- The text of an error, before it is cut. -/
def format : ErrorDetail → Bytes
  | .strerror errno => texts.strerror errno
  | .nghttp2 rv => ascii "nghttp2 error: ".toList ++ texts.nghttp2Strerror rv
  | .connectionClosed => ascii "connection closed".toList
  | .deadlineExceeded => ascii "HTTP/2 transport deadline exceeded".toList
  | .sslWriteTooLong => ascii "SSL_write length exceeds INT_MAX".toList
  | .sslWritePollFailed errno => ascii "SSL_write poll failed: ".toList ++ texts.strerror errno
  | .sslWriteFailed sslError =>
    ascii "SSL_write failed: SSL_get_error=".toList ++ decimal sslError
  | .sendPollFailed errno => ascii "send poll failed: ".toList ++ texts.strerror errno
  | .sendFailed errno => ascii "send failed: ".toList ++ texts.strerror errno
  | .sslReadPollFailed errno => ascii "SSL_read poll failed: ".toList ++ texts.strerror errno
  | .sslReadFailed sslError => ascii "SSL_read failed: SSL_get_error=".toList ++ decimal sslError
  | .recvPollFailed errno => ascii "recv poll failed: ".toList ++ texts.strerror errno
  | .recvFailed errno => ascii "recv failed: ".toList ++ texts.strerror errno
  | .registerFailed => ascii "failed to register HTTP/2 stream".toList
  | .closedBeforeReuse => ascii "persistent connection closed by peer before reuse".toList
  | .tlsClosedBeforeReuse => ascii "persistent TLS connection closed by peer before reuse".toList
  | .tlsPreflightFailed sslError =>
    ascii "persistent TLS connection preflight failed: SSL_get_error=".toList ++ decimal sslError
  | .tlsPreflightReadFailed sslError =>
    ascii "persistent TLS connection preflight read failed: SSL_get_error=".toList ++
      decimal sslError
  | .preflightMemRecvFailed rv =>
    ascii "nghttp2_session_mem_recv failed during persistent preflight: ".toList ++
      texts.nghttp2Strerror rv
  | .preflightSendFailed rv =>
    ascii "nghttp2_session_send failed during persistent preflight: ".toList ++
      texts.nghttp2Strerror rv
  | .preflightDrainLimit => ascii "persistent preflight drain limit exceeded".toList

/-- The text of an error in its buffer. -/
def text (detail : ErrorDetail) : Bytes := (detail.format texts).take (bufferSize - 1)

theorem format_ne (detail : ErrorDetail) : detail.format texts ≠ [] := by
  cases detail with
  | strerror errno => exact texts.strerror_ne errno
  | _ =>
    simp only [format, ascii, ne_eq, List.append_eq_nil_iff, List.map_eq_nil_iff,
      String.toList_eq_nil_iff]
    simp

/-- An error text is never the empty string that stands for no error. -/
theorem text_ne (detail : ErrorDetail) : detail.text texts ≠ [] := by
  intro h
  rcases List.take_eq_nil_iff.mp h with hsize | hempty
  · exact absurd hsize (by decide)
  · exact detail.format_ne texts hempty

end ErrorDetail

/-- The text of a status. -/
def StatusDetails.text : StatusDetails → Bytes
  | .grpcMessage message => message
  | .deadlineExceeded => ascii "HTTP/2 transport deadline exceeded".toList
  | .refusedByGoaway => ascii "HTTP/2 stream refused by GOAWAY".toList
  | .ioError detail => detail.text texts
  | .httpStatus status =>
    ascii "HTTP status ".toList ++ signedDecimal status ++ ascii " without grpc-status".toList
  | .invalidContentTypeValue value =>
    ascii "invalid gRPC content-type: ".toList ++ Surface.cString value
  | .invalidContentType => ascii "invalid gRPC content-type".toList
  | .invalidGrpcStatus => ascii "invalid grpc-status trailer".toList
  | .streamReset code => ascii "HTTP/2 stream reset: ".toList ++ decimal code
  | .readAheadLimit => ascii "server streaming read-ahead queue limit exceeded".toList
  | .messageTooLarge => ascii "received message exceeds maximum size".toList
  | .malformedFrame => ascii "malformed gRPC response frame".toList
  | .unsupportedEncodingValue value =>
    ascii "unsupported grpc-encoding: ".toList ++ Surface.cString value
  | .unsupportedEncoding => ascii "unsupported grpc-encoding".toList
  | .compressedMessage => ascii "compressed gRPC messages are not supported".toList
  | .missingTrailers => ascii "server closed the stream without sending trailers".toList
  | .cancelled => ascii "Cancelled".toList
  | .empty => []

end GrpcLite
