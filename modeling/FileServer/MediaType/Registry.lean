/-!
The media types of common file name extensions. An extension has its leading dot; the empty one
stands for a name without an extension.
-/

namespace FileServer.MediaType

/-- The type of content about which nothing is known. -/
def unknown : String := "application/octet-stream"

/-- Extensions and the types they stand for. -/
def registry : List (String × String) :=
  [("", "application/octet-stream"), (".html", "text/html"), (".htm", "text/html"),
   (".css", "text/css"), (".txt", "text/plain"), (".bat", "text/plain"), (".c", "text/plain"),
   (".h", "text/plain"), (".ksh", "text/plain"), (".pl", "text/plain"), (".py", "text/plain"),
   (".csv", "text/csv"), (".tsv", "text/tab-separated-values"), (".rtx", "text/richtext"),
   (".etx", "text/x-setext"), (".sgm", "text/x-sgml"), (".sgml", "text/x-sgml"),
   (".vcf", "text/x-vcard"), (".xml", "text/xml"), (".md", "text/markdown"),
   (".js", "application/javascript"), (".mjs", "application/javascript"),
   (".json", "application/json"), (".map", "application/json"), (".rdf", "application/xml"),
   (".wsdl", "application/xml"), (".xpdl", "application/xml"), (".xsl", "application/xml"),
   (".sh", "application/x-sh"), (".csh", "application/x-csh"), (".tcl", "application/x-tcl"),
   (".pyc", "application/x-python-code"), (".pyo", "application/x-python-code"),
   (".png", "image/png"), (".gif", "image/gif"), (".jpg", "image/jpeg"), (".jpe", "image/jpeg"),
   (".jpeg", "image/jpeg"), (".svg", "image/svg+xml"), (".ico", "image/vnd.microsoft.icon"),
   (".bmp", "image/x-ms-bmp"), (".tif", "image/tiff"), (".tiff", "image/tiff"),
   (".webp", "image/webp"), (".ief", "image/ief"), (".pbm", "image/x-portable-bitmap"),
   (".pgm", "image/x-portable-graymap"), (".pnm", "image/x-portable-anymap"),
   (".ppm", "image/x-portable-pixmap"), (".ras", "image/x-cmu-raster"), (".rgb", "image/x-rgb"),
   (".xbm", "image/x-xbitmap"), (".xpm", "image/x-xpixmap"), (".xwd", "image/x-xwindowdump"),
   (".au", "audio/basic"), (".snd", "audio/basic"), (".aif", "audio/x-aiff"),
   (".aifc", "audio/x-aiff"), (".aiff", "audio/x-aiff"), (".mp2", "audio/mpeg"),
   (".mp3", "audio/mpeg"), (".ra", "audio/x-pn-realaudio"), (".wav", "audio/x-wav"),
   (".ogg", "audio/ogg"), (".mp4", "video/mp4"), (".m1v", "video/mpeg"), (".mpa", "video/mpeg"),
   (".mpe", "video/mpeg"), (".mpeg", "video/mpeg"), (".mpg", "video/mpeg"),
   (".mov", "video/quicktime"), (".qt", "video/quicktime"), (".movie", "video/x-sgi-movie"),
   (".avi", "video/x-msvideo"), (".webm", "video/webm"), (".woff", "font/woff"),
   (".woff2", "font/woff2"), (".ttf", "font/ttf"), (".otf", "font/otf"),
   (".pdf", "application/pdf"), (".ai", "application/postscript"),
   (".eps", "application/postscript"), (".ps", "application/postscript"),
   (".doc", "application/msword"), (".dot", "application/msword"),
   (".wiz", "application/msword"), (".xls", "application/vnd.ms-excel"),
   (".xlb", "application/vnd.ms-excel"), (".ppt", "application/vnd.ms-powerpoint"),
   (".pps", "application/vnd.ms-powerpoint"), (".pot", "application/vnd.ms-powerpoint"),
   (".ppa", "application/vnd.ms-powerpoint"), (".pwz", "application/vnd.ms-powerpoint"),
   (".eml", "message/rfc822"), (".mht", "message/rfc822"), (".mhtml", "message/rfc822"),
   (".nws", "message/rfc822"), (".dvi", "application/x-dvi"), (".latex", "application/x-latex"),
   (".tex", "application/x-tex"), (".texi", "application/x-texinfo"),
   (".texinfo", "application/x-texinfo"), (".roff", "application/x-troff"),
   (".t", "application/x-troff"), (".tr", "application/x-troff"),
   (".man", "application/x-troff-man"), (".me", "application/x-troff-me"),
   (".ms", "application/x-troff-ms"), (".zip", "application/zip"), (".gz", "application/gzip"),
   (".tar", "application/x-tar"), (".gtar", "application/x-gtar"),
   (".ustar", "application/x-ustar"), (".shar", "application/x-shar"),
   (".cpio", "application/x-cpio"), (".bcpio", "application/x-bcpio"),
   (".sv4cpio", "application/x-sv4cpio"), (".sv4crc", "application/x-sv4crc"),
   (".hdf", "application/x-hdf"), (".cdf", "application/x-netcdf"),
   (".nc", "application/x-netcdf"), (".mif", "application/x-mif"), (".oda", "application/oda"),
   (".p7c", "application/pkcs7-mime"), (".p12", "application/x-pkcs12"),
   (".pfx", "application/x-pkcs12"), (".src", "application/x-wais-source"),
   (".swf", "application/x-shockwave-flash"), (".a", "application/octet-stream"),
   (".bin", "application/octet-stream"), (".dll", "application/octet-stream"),
   (".exe", "application/octet-stream"), (".o", "application/octet-stream"),
   (".obj", "application/octet-stream"), (".so", "application/octet-stream")]

end FileServer.MediaType
