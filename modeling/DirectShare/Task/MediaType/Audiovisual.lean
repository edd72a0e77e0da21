/-!
# Media types of sounds, pictures and films

The types of what is heard or seen: `audio`, `drawing`, `image` and `video`, and the shapes of
letters under `font`.

They are listed in `MediaType.audiovisualTypes`, each with its extensions.
-/

namespace DirectShare.MediaType

/-- The types of what is heard or seen, with the extensions that stand for them. -/
def audiovisualTypes : List (String × List String) :=
  [("audio/aac", ["aac", "adts"]),
    ("audio/ac3", ["ac3"]),
    ("audio/aiff", ["aif", "aifc", "aiff", "cdda"]),
    ("audio/annodex", ["axa"]),
    ("audio/audible", ["aa"]),
    ("audio/basic", ["au", "snd"]),
    ("audio/flac", ["flac"]),
    ("audio/m4a", ["m4a"]),
    ("audio/m4b", ["m4b"]),
    ("audio/m4p", ["m4p"]),
    ("audio/mid", ["mid", "midi", "rmi"]),
    ("audio/midi", ["kar"]),
    ("audio/mp4", ["mp4a"]),
    ("audio/mpeg", ["m2a", "m3a", "mp2a", "mp3", "mpga"]),
    ("audio/ogg", ["oga", "ogg", "opus", "spx"]),
    ("audio/s3m", ["s3m"]),
    ("audio/scpls", ["pls"]),
    ("audio/silk", ["sil"]),
    ("audio/vnd.audible.aax", ["aax"]),
    ("audio/vnd.dece.audio", ["uva", "uvva"]),
    ("audio/vnd.digital-winds", ["eol"]),
    ("audio/vnd.dlna.adts", ["adt"]),
    ("audio/vnd.dra", ["dra"]),
    ("audio/vnd.dts", ["dts"]),
    ("audio/vnd.dts.hd", ["dtshd"]),
    ("audio/vnd.lucent.voice", ["lvp"]),
    ("audio/vnd.ms-playready.media.pya", ["pya"]),
    ("audio/vnd.nuera.ecelp4800", ["ecelp4800"]),
    ("audio/vnd.nuera.ecelp7470", ["ecelp7470"]),
    ("audio/vnd.nuera.ecelp9600", ["ecelp9600"]),
    ("audio/vnd.rip", ["rip"]),
    ("audio/wav", ["wav", "wave"]),
    ("audio/webm", ["weba"]),
    ("audio/x-caf", ["caf"]),
    ("audio/x-gsm", ["gsm"]),
    ("audio/x-m4r", ["m4r"]),
    ("audio/x-matroska", ["mka"]),
    ("audio/x-mpegurl", ["m3u", "m3u8"]),
    ("audio/x-ms-wax", ["wax"]),
    ("audio/x-ms-wma", ["wma"]),
    ("audio/x-pn-realaudio", ["ra", "ram"]),
    ("audio/x-pn-realaudio-plugin", ["rpm"]),
    ("audio/x-sd2", ["sd2"]),
    ("audio/x-smd", ["smd", "smx", "smz"]),
    ("audio/xm", ["xm"]),
    ("drawing/x-dwf", ["dwf"]),
    ("font/collection", ["ttc"]),
    ("font/woff2", ["woff2"]),
    ("image/apng", ["apng"]),
    ("image/avif", ["avif"]),
    ("image/avif-sequence", ["avifs"]),
    ("image/bmp", ["bmp", "dib"]),
    ("image/cgm", ["cgm"]),
    ("image/cis-cod", ["cod"]),
    ("image/fits", ["fits"]),
    ("image/g3fax", ["g3"]),
    ("image/gif", ["gif"]),
    ("image/heic", ["heic"]),
    ("image/heic-sequence", ["heics"]),
    ("image/heif", ["heif"]),
    ("image/heif-sequence", ["heifs"]),
    ("image/ief", ["ief"]),
    ("image/jp2", ["jp2", "jpg2"]),
    ("image/jpeg", ["jfif", "jpe", "jpeg", "jpg"]),
    ("image/jpm", ["jpm"]),
    ("image/jpx", ["jpf", "jpx"]),
    ("image/jxl", ["jxl"]),
    ("image/ktx", ["ktx"]),
    ("image/pict", ["pct", "pic", "pict"]),
    ("image/png", ["png", "pnz"]),
    ("image/prs.btif", ["btif"]),
    ("image/sgi", ["sgi"]),
    ("image/svg+xml", ["svg", "svgz"]),
    ("image/tiff", ["tif", "tiff"]),
    ("image/vnd.dece.graphic", ["uvg", "uvi", "uvvg", "uvvi"]),
    ("image/vnd.djvu", ["djv", "djvu"]),
    ("image/vnd.fastbidsheet", ["fbs"]),
    ("image/vnd.fpx", ["fpx"]),
    ("image/vnd.fst", ["fst"]),
    ("image/vnd.fujixerox.edmics-mmr", ["mmr"]),
    ("image/vnd.fujixerox.edmics-rlc", ["rlc"]),
    ("image/vnd.ms-modi", ["mdi"]),
    ("image/vnd.ms-photo", ["wdp"]),
    ("image/vnd.net-fpx", ["npx"]),
    ("image/vnd.radiance", ["hdr"]),
    ("image/vnd.rn-realflash", ["rf"]),
    ("image/vnd.wap.wbmp", ["wbmp"]),
    ("image/vnd.xiff", ["xif"]),
    ("image/webp", ["webp"]),
    ("image/x-3ds", ["3ds"]),
    ("image/x-adobe-dng", ["dng"]),
    ("image/x-canon-cr2", ["cr2"]),
    ("image/x-canon-cr3", ["cr3"]),
    ("image/x-canon-crw", ["crw"]),
    ("image/x-cmu-raster", ["ras"]),
    ("image/x-cmx", ["cmx"]),
    ("image/x-freehand", ["fh", "fh4", "fh5", "fh7", "fhc"]),
    ("image/x-fuji-raf", ["raf"]),
    ("image/x-icon", ["ico"]),
    ("image/x-jg", ["art"]),
    ("image/x-jng", ["jng"]),
    ("image/x-kodak-k25", ["k25"]),
    ("image/x-kodak-kdc", ["kdc"]),
    ("image/x-macpaint", ["mac", "pnt", "pntg"]),
    ("image/x-minolta-mrw", ["mrw"]),
    ("image/x-mrsid-image", ["sid"]),
    ("image/x-nikon-nef", ["nef"]),
    ("image/x-nikon-nrw", ["nrw"]),
    ("image/x-olympus-orf", ["orf"]),
    ("image/x-panasonic-rw", ["raw"]),
    ("image/x-panasonic-rw2", ["rw2", "rwl"]),
    ("image/x-pentax-pef", ["pef"]),
    ("image/x-portable-anymap", ["pnm"]),
    ("image/x-portable-bitmap", ["pbm"]),
    ("image/x-portable-graymap", ["pgm"]),
    ("image/x-portable-pixmap", ["ppm"]),
    ("image/x-quicktime", ["qti", "qtif"]),
    ("image/x-rgb", ["rgb"]),
    ("image/x-sigma-x3f", ["x3f"]),
    ("image/x-sony-arw", ["arw"]),
    ("image/x-sony-sr2", ["sr2"]),
    ("image/x-tga", ["tga"]),
    ("image/x-xbitmap", ["xbm"]),
    ("image/x-xpixmap", ["xpm"]),
    ("image/x-xwindowdump", ["xwd"]),
    ("video/3gpp", ["3gp", "3gpp"]),
    ("video/3gpp2", ["3g2", "3gp2"]),
    ("video/annodex", ["axv"]),
    ("video/divx", ["divx"]),
    ("video/h261", ["h261"]),
    ("video/h263", ["h263"]),
    ("video/h264", ["h264"]),
    ("video/jpeg", ["jpgv"]),
    ("video/jpm", ["jpgm"]),
    ("video/mj2", ["mj2", "mjp2"]),
    ("video/mp4", ["mp4", "mp4v", "mpg4"]),
    ("video/mpeg",
      ["m1v", "m2v", "mod", "mp2", "mp2v", "mpa", "mpe", "mpeg", "mpg", "mpv2", "vbk"]),
    ("video/ogg", ["ogv"]),
    ("video/quicktime", ["mov", "mqv", "qt"]),
    ("video/vnd.dece.hd", ["uvh", "uvvh"]),
    ("video/vnd.dece.mobile", ["uvm", "uvvm"]),
    ("video/vnd.dece.pd", ["uvp", "uvvp"]),
    ("video/vnd.dece.sd", ["uvs", "uvvs"]),
    ("video/vnd.dece.video", ["uvv", "uvvv"]),
    ("video/vnd.dlna.mpeg-tts", ["m2t", "m2ts", "mts", "ts", "tts"]),
    ("video/vnd.dvb.file", ["dvb"]),
    ("video/vnd.fvt", ["fvt"]),
    ("video/vnd.mpegurl", ["m4u", "mxu"]),
    ("video/vnd.ms-playready.media.pyv", ["pyv"]),
    ("video/vnd.uvvu.mp4", ["uvu", "uvvu"]),
    ("video/vnd.vivo", ["viv"]),
    ("video/webm", ["webm"]),
    ("video/x-dv", ["dif", "dv"]),
    ("video/x-f4v", ["f4v"]),
    ("video/x-fli", ["fli"]),
    ("video/x-flv", ["flv"]),
    ("video/x-ivf", ["ivf"]),
    ("video/x-la-asf", ["lsf", "lsx"]),
    ("video/x-m4v", ["m4v"]),
    ("video/x-matroska", ["mk3d", "mks", "mkv"]),
    ("video/x-mng", ["mng"]),
    ("video/x-ms-asf", ["asf", "asr", "asx", "nsc"]),
    ("video/x-ms-vob", ["vob"]),
    ("video/x-ms-wm", ["wm"]),
    ("video/x-ms-wmp", ["wmp"]),
    ("video/x-ms-wmv", ["wmv"]),
    ("video/x-ms-wmx", ["wmx"]),
    ("video/x-ms-wvx", ["wvx"]),
    ("video/x-msvideo", ["avi"]),
    ("video/x-sgi-movie", ["movie"]),
    ("video/x-smv", ["smv"])]

end DirectShare.MediaType
